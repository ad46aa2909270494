import SchemaPipeline.Proofs.Lists
import SchemaPipeline.Text.Utf8

/-!
# Reading UTF-8 back

The encoding of a character is a well-formed sequence, whatever comes after it,
so a text is read back from its encoding (`decodeLossy_encode`). Bytes that are
no encoding fall apart at every ASCII character: no sequence goes on over it,
so what stands before it and what comes after it are read each for itself
(`decodeLossy_append_ascii`).

Nothing but an encoding is read without a gap (`decode?_eq_some_iff`). The first
byte of a sequence says how many follow, and the range of the second one keeps
out the rest: what could be shorter, surrogates, and what is beyond the last
character.
-/

namespace SchemaPipeline.Utf8

/-! ## Steps through the bytes -/

theorem scan_ascii {b : UInt8} (h : b.toNat < 0x80) (rest : Bytes) :
    scan none (b :: rest) = some (Char.ofNat b.toNat) :: scan none rest := by
  have hlead : lead? b.toNat = some ⟨0, b.toNat, 0x80, 0xbf⟩ := by
    rw [lead?, if_pos h]
  simp only [scan, start, hlead, if_true]

theorem scan_lead {b : UInt8} {following payload low high : Nat}
    (h : lead? b.toNat = some ⟨following + 1, payload, low, high⟩)
    (rest : Bytes) :
    scan none (b :: rest) =
      scan (some ⟨following + 1, payload, low, high⟩) rest := by
  simp only [scan, start, h, Nat.add_one_ne_zero, if_false]

theorem scan_more {missing bits low high : Nat} {b : UInt8}
    (hlow : low ≤ b.toNat) (hhigh : b.toNat ≤ high) (rest : Bytes) :
    scan (some ⟨missing + 2, bits, low, high⟩) (b :: rest) =
      scan (some ⟨missing + 1, bits * 64 + b.toNat % 64, 0x80, 0xbf⟩) rest := by
  rw [scan, if_pos ⟨hlow, hhigh⟩]
  simp

theorem scan_last {bits low high : Nat} {b : UInt8} (hlow : low ≤ b.toNat)
    (hhigh : b.toNat ≤ high) (rest : Bytes) :
    scan (some ⟨1, bits, low, high⟩) (b :: rest) =
      some (Char.ofNat (bits * 64 + b.toNat % 64)) :: scan none rest := by
  rw [scan, if_pos ⟨hlow, hhigh⟩]
  simp

/-! ## The encoding of a character -/

theorem toNat_ofNat_of_lt {n : Nat} (h : n < 256) : (UInt8.ofNat n).toNat = n := by
  rw [UInt8.toNat_ofNat', Nat.mod_eq_of_lt h]

theorem toNat_cases (c : Char) :
    c.toNat < 0xd800 ∨ 0xdfff < c.toNat ∧ c.toNat < 0x110000 := c.valid

/-- One byte for an ASCII character; otherwise no byte is one. -/
theorem utf8EncodeChar_cases (c : Char) :
    c.toNat < 0x80 ∧ String.utf8EncodeChar c = [UInt8.ofNat c.toNat] ∨
      0x80 ≤ c.toNat ∧ ∀ b ∈ String.utf8EncodeChar c, 0x80 ≤ b.toNat := by
  rw [String.utf8EncodeChar, show c.val.toNat = c.toNat from rfl]
  split
  · exact .inl ⟨by omega, rfl⟩
  · refine .inr ⟨by omega, fun b hb => ?_⟩
    have hbyte : ∀ m, 0x80 ≤ m → m < 0x100 → b = UInt8.ofNat m →
        0x80 ≤ b.toNat := by
      rintro m hlow hhigh rfl
      rw [toNat_ofNat_of_lt hhigh]
      exact hlow
    split at hb
    · simp only [List.mem_cons, List.not_mem_nil, or_false] at hb
      rcases hb with hb | hb <;> exact hbyte _ (by omega) (by omega) hb
    · split at hb
      · simp only [List.mem_cons, List.not_mem_nil, or_false] at hb
        rcases hb with hb | hb | hb <;> exact hbyte _ (by omega) (by omega) hb
      · simp only [List.mem_cons, List.not_mem_nil, or_false] at hb
        rcases hb with hb | hb | hb | hb <;>
          exact hbyte _ (by omega) (by omega) hb

/-- Two bytes for what needs up to eleven bits. -/
theorem scan_two {v : Nat} (hlow : 0x80 ≤ v) (hhigh : v < 0x800) (rest : Bytes) :
    scan none (UInt8.ofNat (v / 64 % 32 + 192) :: UInt8.ofNat (v % 64 + 128) ::
      rest) = some (Char.ofNat v) :: scan none rest := by
  have hfirst : (UInt8.ofNat (v / 64 % 32 + 192)).toNat = v / 64 + 192 := by
    rw [toNat_ofNat_of_lt] <;> omega
  have hsecond : (UInt8.ofNat (v % 64 + 128)).toNat = v % 64 + 128 :=
    toNat_ofNat_of_lt (by omega)
  have hlead : lead? (v / 64 + 192) = some ⟨0 + 1, v / 64, 0x80, 0xbf⟩ := by
    rw [lead?, if_neg (by omega), if_neg (by omega), if_pos (by omega)]
    simp
  have hbits : v / 64 * 64 + (v % 64 + 128) % 64 = v := by omega
  rw [scan_lead (by rw [hfirst, hlead]), scan_last (by omega) (by omega), hsecond,
    hbits]

/-- The first of three bytes lets the second one through. -/
theorem lead?_three {v : Nat} (hlow : 0x800 ≤ v) (hhigh : v < 0x10000)
    (hvalid : v < 0xd800 ∨ 0xdfff < v) :
    ∃ low high, lead? (v / 4096 + 224) = some ⟨1 + 1, v / 4096, low, high⟩ ∧
      low ≤ v / 64 % 64 + 128 ∧ v / 64 % 64 + 128 ≤ high := by
  unfold lead?
  rw [if_neg (by omega), if_neg (by omega), if_neg (by omega)]
  by_cases hzero : v / 4096 = 0
  · -- no shorter encoding
    refine ⟨0xa0, 0xbf, by rw [if_pos (by omega), hzero], by omega, by omega⟩
  by_cases hgap : v / 4096 = 13
  · -- no surrogate
    refine ⟨0x80, 0x9f, ?_, by omega, by omega⟩
    rw [if_neg (by omega), if_pos (by omega), hgap]
  refine ⟨0x80, 0xbf, ?_, by omega, by omega⟩
  rw [if_neg (by omega), if_neg (by omega), if_pos (by omega)]
  simp

theorem scan_three {v : Nat} (hlow : 0x800 ≤ v) (hhigh : v < 0x10000)
    (hvalid : v < 0xd800 ∨ 0xdfff < v) (rest : Bytes) :
    scan none (UInt8.ofNat (v / 4096 % 16 + 224) ::
      UInt8.ofNat (v / 64 % 64 + 128) :: UInt8.ofNat (v % 64 + 128) :: rest) =
        some (Char.ofNat v) :: scan none rest := by
  have hfirst : (UInt8.ofNat (v / 4096 % 16 + 224)).toNat = v / 4096 + 224 := by
    rw [toNat_ofNat_of_lt] <;> omega
  have hsecond : (UInt8.ofNat (v / 64 % 64 + 128)).toNat = v / 64 % 64 + 128 :=
    toNat_ofNat_of_lt (by omega)
  have hthird : (UInt8.ofNat (v % 64 + 128)).toNat = v % 64 + 128 :=
    toNat_ofNat_of_lt (by omega)
  obtain ⟨low, high, hlead, hge, hle⟩ := lead?_three hlow hhigh hvalid
  have hbits : (v / 4096 * 64 + (v / 64 % 64 + 128) % 64) * 64 +
      (v % 64 + 128) % 64 = v := by omega
  rw [scan_lead (by rw [hfirst, hlead]), scan_more (by omega) (by omega),
    scan_last (by omega) (by omega), hsecond, hthird, hbits]

/-- The first of four bytes lets the second one through. -/
theorem lead?_four {v : Nat} (hlow : 0x10000 ≤ v) (hhigh : v < 0x110000) :
    ∃ low high, lead? (v / 262144 + 240) = some ⟨2 + 1, v / 262144, low, high⟩ ∧
      low ≤ v / 4096 % 64 + 128 ∧ v / 4096 % 64 + 128 ≤ high := by
  unfold lead?
  rw [if_neg (by omega), if_neg (by omega), if_neg (by omega),
    if_neg (by omega), if_neg (by omega), if_neg (by omega)]
  by_cases hzero : v / 262144 = 0
  · -- no shorter encoding
    refine ⟨0x90, 0xbf, by rw [if_pos (by omega), hzero], by omega, by omega⟩
  by_cases hlast : v / 262144 = 4
  · -- nothing beyond the last character
    refine ⟨0x80, 0x8f, ?_, by omega, by omega⟩
    rw [if_neg (by omega), if_neg (by omega), if_pos (by omega), hlast]
  refine ⟨0x80, 0xbf, ?_, by omega, by omega⟩
  rw [if_neg (by omega), if_pos (by omega)]
  simp

theorem scan_four {v : Nat} (hlow : 0x10000 ≤ v) (hhigh : v < 0x110000)
    (rest : Bytes) :
    scan none (UInt8.ofNat (v / 262144 % 8 + 240) ::
      UInt8.ofNat (v / 4096 % 64 + 128) :: UInt8.ofNat (v / 64 % 64 + 128) ::
      UInt8.ofNat (v % 64 + 128) :: rest) =
        some (Char.ofNat v) :: scan none rest := by
  have hfirst : (UInt8.ofNat (v / 262144 % 8 + 240)).toNat = v / 262144 + 240 := by
    rw [toNat_ofNat_of_lt] <;> omega
  have hsecond : (UInt8.ofNat (v / 4096 % 64 + 128)).toNat =
      v / 4096 % 64 + 128 := toNat_ofNat_of_lt (by omega)
  have hthird : (UInt8.ofNat (v / 64 % 64 + 128)).toNat = v / 64 % 64 + 128 :=
    toNat_ofNat_of_lt (by omega)
  have hfourth : (UInt8.ofNat (v % 64 + 128)).toNat = v % 64 + 128 :=
    toNat_ofNat_of_lt (by omega)
  obtain ⟨low, high, hlead, hge, hle⟩ := lead?_four hlow hhigh
  have hbits : ((v / 262144 * 64 + (v / 4096 % 64 + 128) % 64) * 64 +
      (v / 64 % 64 + 128) % 64) * 64 + (v % 64 + 128) % 64 = v := by omega
  rw [scan_lead (by rw [hfirst, hlead]), scan_more (by omega) (by omega),
    scan_more (by omega) (by omega), scan_last (by omega) (by omega), hsecond,
    hthird, hfourth, hbits]

theorem scan_char (c : Char) (rest : Bytes) :
    scan none (String.utf8EncodeChar c ++ rest) = some c :: scan none rest := by
  have hvalid := toNat_cases c
  have hread : some (Char.ofNat c.toNat) :: scan none rest =
      some c :: scan none rest := by rw [Char.ofNat_toNat]
  rw [String.utf8EncodeChar, show c.val.toNat = c.toNat from rfl]
  split
  · next hone =>
      have hbyte : (UInt8.ofNat c.toNat).toNat = c.toNat :=
        toNat_ofNat_of_lt (by omega)
      rw [List.singleton_append, scan_ascii (by omega), hbyte, hread]
  · split
    · exact (scan_two (v := c.toNat) (by omega) (by omega) rest).trans hread
    · split
      · exact (scan_three (v := c.toNat) (by omega) (by omega) (by omega)
          rest).trans hread
      · exact (scan_four (v := c.toNat) (by omega) (by omega) rest).trans hread

theorem scan_encode (cs : List Char) : scan none (encode cs) = cs.map some := by
  induction cs with
  | nil => rfl
  | cons c rest ih =>
      rw [encode, List.flatMap_cons, scan_char, List.map_cons]
      exact congrArg (some c :: ·) ih

/-- A text is read back from its encoding. -/
theorem decodeLossy_encode (cs : List Char) : decodeLossy (encode cs) = cs := by
  rw [decodeLossy, scan_encode, List.map_map]
  exact List.map_id' cs

/-! ## Bytes around an ASCII character -/

/-- A character under way wants a byte that is no ASCII character. -/
def Pending.Beyond (p : Pending) : Prop := 0x80 ≤ p.low

theorem beyond_of_lead? {b : Nat} {l : Lead} (h : lead? b = some l) :
    0x80 ≤ l.low := by
  unfold lead? at h
  split at h
  all_goals grind

theorem beyond_of_start {b : UInt8} {p : Pending} (h : (start b).2 = some p) :
    p.Beyond := by
  unfold start at h
  split at h
  · cases h
  · next l hlead =>
      split at h
      · cases h
      · cases h
        exact beyond_of_lead? hlead

theorem scan_append_ascii {b : UInt8} (h : b.toNat < 0x80) (rest bs : Bytes)
    (p : Option Pending) (hp : ∀ q ∈ p, q.Beyond) :
    scan p (bs ++ b :: rest) =
      scan p bs ++ some (Char.ofNat b.toNat) :: scan none rest := by
  have hstart : ∀ a : UInt8, ∀ q ∈ (start a).2, q.Beyond :=
    fun a q hq => beyond_of_start hq
  have hlead : lead? b.toNat = some ⟨0, b.toNat, 0x80, 0xbf⟩ := by
    rw [lead?, if_pos h]
  induction bs generalizing p with
  | nil =>
      cases p with
      | none => exact scan_ascii h rest
      | some q =>
          have hbeyond : 0x80 ≤ q.low := hp q rfl
          have hends : ¬ (q.low ≤ b.toNat ∧ b.toNat ≤ q.high) := by omega
          simp only [List.nil_append, scan, if_neg hends, start, hlead, if_true]
          rfl
  | cons a bs ih =>
      have hread := hstart a
      cases p with
      | none =>
          rw [List.cons_append, scan, scan]
          generalize start a = started at hread ⊢
          obtain ⟨c, q⟩ := started
          cases c with
          | none => exact ih q hread
          | some c => exact congrArg (c :: ·) (ih q hread)
      | some q =>
          rw [List.cons_append, scan, scan]
          split
          · split
            · exact congrArg _ (ih none nofun)
            · exact ih _ fun q' hq' => by
                cases hq'
                exact Nat.le_refl _
          · generalize start a = started at hread ⊢
            obtain ⟨c, q'⟩ := started
            cases c with
            | none => exact congrArg (none :: ·) (ih q' hread)
            | some c => exact congrArg (none :: c :: ·) (ih q' hread)

/-- An ASCII character is read as itself, and what stands before it and what
comes after it as if they stood alone. -/
theorem decodeLossy_append_ascii {b : UInt8} (h : b.toNat < 0x80)
    (bs rest : Bytes) :
    decodeLossy (bs ++ b :: rest) =
      decodeLossy bs ++ Char.ofNat b.toNat :: decodeLossy rest := by
  simp only [decodeLossy, scan_append_ascii h rest bs none nofun, List.map_append,
    List.map_cons, Option.getD_some]

/-! ## Only encodings are read without a gap -/

/-- What the first byte of a character can be. The range of the second byte keeps
out what has a shorter encoding, what is a surrogate and what comes after the
last character. -/
inductive LeadOf (b : Nat) : Lead → Prop where
  | one (hb : b < 0x80) : LeadOf b ⟨0, b, 0x80, 0xbf⟩
  | two {payload : Nat} (hb : b = payload + 0xc0)
      (hpayload : 2 ≤ payload ∧ payload < 0x20) :
      LeadOf b ⟨0 + 1, payload, 0x80, 0xbf⟩
  | three {payload low high : Nat} (hb : b = payload + 0xe0)
      (hpayload : payload < 0x10) (hshort : payload = 0 → 0xa0 ≤ low)
      (hgap : payload = 13 → high ≤ 0x9f) (hrange : 0x80 ≤ low ∧ high ≤ 0xbf) :
      LeadOf b ⟨1 + 1, payload, low, high⟩
  | four {payload low high : Nat} (hb : b = payload + 0xf0)
      (hpayload : payload ≤ 4) (hshort : payload = 0 → 0x90 ≤ low)
      (hlast : payload = 4 → high ≤ 0x8f) (hrange : 0x80 ≤ low ∧ high ≤ 0xbf) :
      LeadOf b ⟨2 + 1, payload, low, high⟩

theorem leadOf_of_lead? (b : Nat) : ∀ l ∈ lead? b, LeadOf b l := by
  intro l
  fun_cases lead? b with
  | case1 hb =>
      rintro ⟨⟩
      exact .one hb
  | case2 => nofun
  | case3 =>
      rintro ⟨⟩
      exact .two (by omega) (by omega)
  | case4 | case5 | case6 =>
      rintro ⟨⟩
      exact .three (by omega) (by omega) (by omega) (by omega) (by omega)
  | case7 | case8 | case9 =>
      rintro ⟨⟩
      exact .four (by omega) (by omega) (by omega) (by omega) (by omega)
  | case10 => nofun

/-- A character under way is gone on with by a byte in its range. -/
theorem step_of_scan {p : Pending} {bs : Bytes} {cs : List Char}
    (h : scan (some p) bs = cs.map some) :
    ∃ b rest, bs = b :: rest ∧ p.low ≤ b.toNat ∧ b.toNat ≤ p.high := by
  cases bs with
  | nil =>
      have hnone : none ∈ cs.map some := by
        rw [← h, scan]
        exact List.mem_singleton_self none
      simp at hnone
  | cons b rest =>
      by_cases hrange : p.low ≤ b.toNat ∧ b.toNat ≤ p.high
      · exact ⟨b, rest, rfl, hrange⟩
      · have hnone : none ∈ cs.map some := by
          rw [← h, scan, if_neg hrange]
          split <;> exact List.mem_cons_self
        simp at hnone

theorem toNat_ofNat_of_valid {v : Nat} (h : v.isValidChar) :
    (Char.ofNat v).toNat = v := by
  rw [Char.ofNat, dif_pos h]
  rfl

theorem ofNat_eq_of_toNat {b : UInt8} {n : Nat} (h : b.toNat = n) :
    UInt8.ofNat n = b := by
  rw [← h, UInt8.ofNat_toNat]

/-- The first character of a text is read from its encoding. -/
def Begins (bs : Bytes) (cs : List Char) : Prop :=
  ∃ c cs' rest, cs = c :: cs' ∧ bs = String.utf8EncodeChar c ++ rest ∧
    scan none rest = cs'.map some

theorem Begins.of_scan {v : Nat} (bytes : Bytes) {rest : Bytes} {cs : List Char}
    (hvalid : v.isValidChar)
    (hbytes : ∀ c : Char, c.toNat = v → bytes = String.utf8EncodeChar c)
    (h : some (Char.ofNat v) :: scan none rest = cs.map some) :
    Begins (bytes ++ rest) cs := by
  obtain ⟨c, cs', rfl, hc, hrest⟩ := List.map_eq_cons_iff.1 h.symm
  cases hc
  rw [hbytes _ (toNat_ofNat_of_valid hvalid)]
  exact ⟨_, cs', rest, rfl, rfl, hrest.symm⟩

section

variable {b : UInt8} {payload low high : Nat} {bs : Bytes} {cs : List Char}

theorem begins_one (hb : b.toNat < 0x80)
    (h : scan none (b :: bs) = cs.map some) : Begins (b :: bs) cs := by
  rw [scan_ascii hb] at h
  refine .of_scan [b] (.inl (by omega)) (fun c hc => ?_) h
  rw [String.utf8EncodeChar, show c.val.toNat = b.toNat from hc,
    if_pos (by omega), UInt8.ofNat_toNat]

theorem begins_two (hb : b.toNat = payload + 0xc0)
    (hpayload : 2 ≤ payload ∧ payload < 0x20)
    (h : scan (some ⟨0 + 1, payload, 0x80, 0xbf⟩) bs = cs.map some) :
    Begins (b :: bs) cs := by
  obtain ⟨b₁, rest, rfl, hlow, hhigh⟩ := step_of_scan h
  rw [scan_last hlow hhigh] at h
  simp only at hlow hhigh
  refine .of_scan [b, b₁] (.inl (by omega)) (fun c hc => ?_) h
  rw [String.utf8EncodeChar, show c.val.toNat = _ from hc, if_neg (by omega),
    if_pos (by omega), ofNat_eq_of_toNat (b := b) (by omega),
    ofNat_eq_of_toNat (b := b₁) (by omega)]

theorem begins_three (hb : b.toNat = payload + 0xe0) (hpayload : payload < 0x10)
    (hshort : payload = 0 → 0xa0 ≤ low) (hgap : payload = 13 → high ≤ 0x9f)
    (hrange : 0x80 ≤ low ∧ high ≤ 0xbf)
    (h : scan (some ⟨1 + 1, payload, low, high⟩) bs = cs.map some) :
    Begins (b :: bs) cs := by
  obtain ⟨b₁, rest, rfl, hlow₁, hhigh₁⟩ := step_of_scan h
  rw [scan_more hlow₁ hhigh₁] at h
  obtain ⟨b₂, rest, rfl, hlow₂, hhigh₂⟩ := step_of_scan h
  rw [scan_last hlow₂ hhigh₂] at h
  simp only at hlow₁ hhigh₁ hlow₂ hhigh₂
  have hvalid : Nat.isValidChar
      ((payload * 64 + b₁.toNat % 64) * 64 + b₂.toNat % 64) := by
    unfold Nat.isValidChar
    omega
  refine .of_scan [b, b₁, b₂] hvalid (fun c hc => ?_) h
  rw [String.utf8EncodeChar, show c.val.toNat = _ from hc, if_neg (by omega),
    if_neg (by omega), if_pos (by omega),
    ofNat_eq_of_toNat (b := b) (by omega),
    ofNat_eq_of_toNat (b := b₁) (by omega),
    ofNat_eq_of_toNat (b := b₂) (by omega)]

theorem begins_four (hb : b.toNat = payload + 0xf0) (hpayload : payload ≤ 4)
    (hshort : payload = 0 → 0x90 ≤ low) (hlast : payload = 4 → high ≤ 0x8f)
    (hrange : 0x80 ≤ low ∧ high ≤ 0xbf)
    (h : scan (some ⟨2 + 1, payload, low, high⟩) bs = cs.map some) :
    Begins (b :: bs) cs := by
  obtain ⟨b₁, rest, rfl, hlow₁, hhigh₁⟩ := step_of_scan h
  rw [scan_more hlow₁ hhigh₁] at h
  obtain ⟨b₂, rest, rfl, hlow₂, hhigh₂⟩ := step_of_scan h
  rw [scan_more hlow₂ hhigh₂] at h
  obtain ⟨b₃, rest, rfl, hlow₃, hhigh₃⟩ := step_of_scan h
  rw [scan_last hlow₃ hhigh₃] at h
  simp only at hlow₁ hhigh₁ hlow₂ hhigh₂ hlow₃ hhigh₃
  have hvalid : Nat.isValidChar (((payload * 64 + b₁.toNat % 64) * 64 +
      b₂.toNat % 64) * 64 + b₃.toNat % 64) := by
    unfold Nat.isValidChar
    omega
  refine .of_scan [b, b₁, b₂, b₃] hvalid (fun c hc => ?_) h
  rw [String.utf8EncodeChar, show c.val.toNat = _ from hc, if_neg (by omega),
    if_neg (by omega), if_neg (by omega),
    ofNat_eq_of_toNat (b := b) (by omega),
    ofNat_eq_of_toNat (b := b₁) (by omega),
    ofNat_eq_of_toNat (b := b₂) (by omega),
    ofNat_eq_of_toNat (b := b₃) (by omega)]

theorem begins_of_scan (h : scan none (b :: bs) = cs.map some) :
    Begins (b :: bs) cs := by
  cases hlead : lead? b.toNat with
  | none =>
      have hnone : none ∈ cs.map some := by
        rw [← h]
        simp only [scan, start, hlead]
        exact List.mem_cons_self
      simp at hnone
  | some l =>
      cases leadOf_of_lead? _ l hlead with
      | one hb => exact begins_one hb h
      | two hb hpayload =>
          rw [scan_lead hlead] at h
          exact begins_two hb hpayload h
      | three hb hpayload hshort hgap hrange =>
          rw [scan_lead hlead] at h
          exact begins_three hb hpayload hshort hgap hrange h
      | four hb hpayload hshort hlast hrange =>
          rw [scan_lead hlead] at h
          exact begins_four hb hpayload hshort hlast hrange h

end

theorem eq_encode_of_scan {bs : Bytes} {cs : List Char}
    (h : scan none bs = cs.map some) : bs = encode cs := by
  -- on the characters: each takes its own bytes, one to four, from the front
  induction cs generalizing bs with
  | nil =>
      cases bs with
      | nil => rfl
      | cons b bs =>
          obtain ⟨_, _, _, hcs, -⟩ := begins_of_scan h
          cases hcs
  | cons c cs ih =>
      cases bs with
      | nil => cases h
      | cons b bs =>
          obtain ⟨c', cs', rest, hcs, hbytes, hrest⟩ := begins_of_scan h
          cases hcs
          rw [hbytes, ih hrest]
          rfl

/-- Bytes are read as a text if they are its encoding, and then only. -/
theorem decode?_eq_some_iff {bs : Bytes} {cs : List Char} :
    decode? bs = some cs ↔ bs = encode cs := by
  rw [decode?, mapM_id_eq_some_iff]
  exact ⟨eq_encode_of_scan, fun h => h ▸ scan_encode cs⟩

theorem ofString_injective {s t : String}
    (h : ofString s = ofString t) : s = t := by
  have hread : decode? (ofString s) = some t.toList := by
    rw [h]
    exact decode?_eq_some_iff.2 rfl
  exact String.toList_inj.1
    (Option.some.inj ((decode?_eq_some_iff.2 rfl).symm.trans hread))

end SchemaPipeline.Utf8
