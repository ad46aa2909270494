import SchemaPipeline.Proofs.Pointer.Text
import SchemaPipeline.Proofs.Text.Utf8

/-!
# Pointers in fragments

A fragment may have some characters of a pointer's text as they are and others
percent-encoded, byte by byte and with digits of either case. Which ones is up
to the writer, but for the percent sign itself, which has to be encoded. Decoding
undoes all these ways alike (`decode_of_written`), so the fragment denotes the
pointer.

A percent sign that two digits do not follow stands for itself. Nothing that is
decoded goes over it, on the left or on the right, so it cuts the text in two
that are decoded each for itself (`decodeText_sign`).
-/

namespace SchemaPipeline

namespace Percent

open Utf8 (Bytes)

/-- A hexadecimal digit of either case. -/
def Digit (n : Nat) (c : Char) : Prop :=
  n < 16 ∧ (c = Nat.digitChar n ∨ c = (Nat.digitChar n).toUpper)

instance (n : Nat) (c : Char) : Decidable (Digit n c) :=
  inferInstanceAs (Decidable (_ ∧ _))

/-- Bytes, each written as a percent sign and two digits. -/
inductive Triples : Bytes → List Char → Prop where
  | nil : Triples [] []
  | cons {b : UInt8} {bytes : Bytes} {high low : Char} {chars : List Char}
      (hhigh : Digit (b.toNat / 16) high) (hlow : Digit (b.toNat % 16) low)
      (h : Triples bytes chars) :
      Triples (b :: bytes) ('%' :: high :: low :: chars)

/-- A text with some of its characters encoded, and all of its percent signs. -/
inductive Written : List Char → List Char → Prop where
  | nil : Written [] []
  | kept {c : Char} {text fragment : List Char} (hc : c ≠ '%')
      (h : Written text fragment) : Written (c :: text) (c :: fragment)
  | encoded {c : Char} {text triples fragment : List Char}
      (hc : Triples (String.utf8EncodeChar c) triples)
      (h : Written text fragment) : Written (c :: text) (triples ++ fragment)

/-- Two digits come first. -/
def StartsEscape (cs : List Char) : Prop :=
  ∃ m n high low rest, cs = high :: low :: rest ∧ Digit m high ∧ Digit n low

/-! ## Digits as bytes -/

theorem utf8EncodeChar_digit {n : Nat} {c : Char} (h : Digit n c) :
    ∃ b, String.utf8EncodeChar c = [b] ∧ hexDigit? b = some (UInt8.ofNat n) := by
  have hall : ∀ upper : Bool, ∀ n < 16,
      let c := cond upper (Nat.digitChar n).toUpper (Nat.digitChar n)
      String.utf8EncodeChar c = [UInt8.ofNat c.toNat] ∧
        hexDigit? (UInt8.ofNat c.toNat) = some (UInt8.ofNat n) := by
    decide +kernel
  obtain ⟨hn, rfl | rfl⟩ := h
  · exact ⟨_, hall false n hn⟩
  · exact ⟨_, hall true n hn⟩

theorem digit_of_hexDigit? {b n : UInt8} (h : hexDigit? b = some n) :
    b.toNat < 0x80 ∧ Digit n.toNat (Char.ofNat b.toNat) := by
  have hall : ∀ k < 256, (hexDigit? (UInt8.ofNat k)).all fun n =>
      decide (k < 0x80 ∧ Digit n.toNat (Char.ofNat k)) := by
    decide +kernel
  have hb := hall b.toNat b.toNat_lt
  rw [UInt8.ofNat_toNat, h] at hb
  exact of_decide_eq_true hb

theorem pair?_eq_some {high low x : UInt8} :
    pair? high low = some x ↔ ∃ m n, hexDigit? high = some m ∧
      hexDigit? low = some n ∧ x = m * 16 + n := by
  unfold pair?
  cases hexDigit? high <;> cases hexDigit? low <;> simp [eq_comm]

theorem pair?_sign_left (low : UInt8) : pair? sign low = none := rfl

theorem pair?_sign_right (high : UInt8) : pair? high sign = none := by
  cases h : pair? high sign with
  | none => rfl
  | some x =>
      obtain ⟨m, n, -, hlow, -⟩ := pair?_eq_some.1 h
      cases hlow

/-! ## Steps through the bytes -/

theorem decode_cons {b : UInt8} {rest : Bytes}
    (h : b = sign → ∀ high low tail, rest = high :: low :: tail →
      pair? high low = none) :
    decode (b :: rest) = b :: decode rest := by
  match rest with
  | [] => rfl
  | [_] => rfl
  | high :: low :: tail =>
      rw [decode]
      by_cases hb : b = sign
      · rw [if_pos hb, h hb high low tail rfl]
      · rw [if_neg hb]

theorem decode_triple {high low x : UInt8} (h : pair? high low = some x)
    (rest : Bytes) : decode (sign :: high :: low :: rest) = x :: decode rest := by
  rw [decode, if_pos rfl, h]

theorem decode_append {bytes : Bytes} (h : sign ∉ bytes) (rest : Bytes) :
    decode (bytes ++ rest) = bytes ++ decode rest := by
  induction bytes with
  | nil => rfl
  | cons b bytes ih =>
      rw [List.mem_cons, not_or] at h
      rw [List.cons_append, decode_cons fun hb => absurd hb.symm h.1, ih h.2]
      rfl

/-- No triple goes over a percent sign, which is no digit. -/
theorem decode_append_sign (before after : Bytes) :
    decode (before ++ sign :: after) =
      decode before ++ decode (sign :: after) := by
  induction before using decode.induct with
  | case1 => rfl
  | case2 b =>
      refine decode_cons fun _ high low tail hrest => ?_
      cases hrest
      exact pair?_sign_left _
  | case3 b c =>
      have hfirst : decode (b :: c :: sign :: after) =
          b :: decode (c :: sign :: after) := by
        refine decode_cons fun _ high low tail hrest => ?_
        cases hrest
        exact pair?_sign_right _
      have hsecond : decode (c :: sign :: after) = c :: decode (sign :: after) := by
        refine decode_cons fun _ high low tail hrest => ?_
        cases hrest
        exact pair?_sign_left _
      exact hfirst.trans (congrArg (b :: ·) hsecond)
  | case4 high low rest x hpair ih =>
      rw [decode_triple hpair]
      exact (decode_triple hpair _).trans (congrArg (x :: ·) ih)
  | case5 high low rest hpair ih =>
      have hkept : ∀ tail, decode (sign :: high :: low :: tail) =
          sign :: decode (high :: low :: tail) := by
        refine fun tail => decode_cons fun _ h l t hrest => ?_
        cases hrest
        exact hpair
      rw [hkept]
      exact (hkept _).trans (congrArg (sign :: ·) ih)
  | case6 b high low rest hb ih =>
      have hkept : ∀ tail, decode (b :: tail) = b :: decode tail :=
        fun tail => decode_cons fun h => absurd h hb
      rw [hkept]
      exact (hkept _).trans (congrArg (b :: ·) ih)

/-! ## Written texts -/

theorem decode_of_triples {bytes : Bytes} {chars : List Char}
    (h : Triples bytes chars) (rest : Bytes) :
    decode (Utf8.encode chars ++ rest) = bytes ++ decode rest := by
  induction h with
  | nil => rfl
  | @cons b bytes high low chars hhigh hlow _ ih =>
      obtain ⟨x, hx, hm⟩ := utf8EncodeChar_digit hhigh
      obtain ⟨y, hy, hn⟩ := utf8EncodeChar_digit hlow
      have hbytes : Utf8.encode ('%' :: high :: low :: chars) =
          sign :: x :: y :: Utf8.encode chars := by
        simp only [Utf8.encode, List.flatMap_cons, hx, hy]
        rfl
      have hpair : pair? x y = some b := by
        refine pair?_eq_some.2 ⟨_, _, hm, hn, ?_⟩
        refine UInt8.toNat_inj.1 ?_
        have := b.toNat_lt
        simp
        omega
      rw [hbytes, List.cons_append, List.cons_append, List.cons_append,
        decode_triple hpair, ih, List.cons_append]

theorem sign_not_mem {c : Char} (hc : c ≠ '%') :
    sign ∉ String.utf8EncodeChar c := by
  intro hmem
  rcases Utf8.utf8EncodeChar_cases c with ⟨hascii, hbyte⟩ | ⟨-, hbytes⟩
  · rw [hbyte, List.mem_singleton] at hmem
    have hnat : c.toNat = sign.toNat := by
      rw [hmem, Utf8.toNat_ofNat_of_lt (by omega)]
    exact hc (Char.toNat_inj.1 hnat)
  · exact absurd (hbytes sign hmem) (by decide)

/-- However a text is written, its bytes come back. -/
theorem decode_of_written {text fragment : List Char} (h : Written text fragment) :
    decode (Utf8.encode fragment) = Utf8.encode text := by
  induction h with
  | nil => rfl
  | @kept c text fragment hc _ ih =>
      have hcons : ∀ cs, Utf8.encode (c :: cs) =
          String.utf8EncodeChar c ++ Utf8.encode cs := fun _ => rfl
      rw [hcons, hcons, decode_append (sign_not_mem hc), ih]
  | @encoded c text triples fragment hc _ ih =>
      have happend : Utf8.encode (triples ++ fragment) =
          Utf8.encode triples ++ Utf8.encode fragment := List.flatMap_append
      rw [happend, decode_of_triples hc, ih]
      rfl

theorem decodeText_of_written {text fragment : List Char}
    (h : Written text fragment) : decodeText fragment = text := by
  rw [decodeText, decode_of_written h, Utf8.decodeLossy_encode]

/-! ## Percent signs that stand for themselves -/

/-- Bytes that are two digits are characters that are two digits. -/
theorem char_of_hexDigit? {c : Char} {cs : List Char} {b n : UInt8}
    {rest : Bytes} (hbytes : Utf8.encode (c :: cs) = b :: rest)
    (hdigit : hexDigit? b = some n) : Digit n.toNat c ∧ Utf8.encode cs = rest := by
  obtain ⟨hascii, hchar⟩ := digit_of_hexDigit? hdigit
  have hcons : Utf8.encode (c :: cs) =
      String.utf8EncodeChar c ++ Utf8.encode cs := rfl
  rcases Utf8.utf8EncodeChar_cases c with ⟨hc, hbyte⟩ | ⟨-, hall⟩
  · rw [hcons, hbyte, List.singleton_append, List.cons.injEq] at hbytes
    obtain ⟨rfl, hrest⟩ := hbytes
    rw [Utf8.toNat_ofNat_of_lt (by omega), Char.ofNat_toNat] at hchar
    exact ⟨hchar, hrest⟩
  · obtain ⟨b', bytes, hb⟩ :=
      List.exists_cons_of_ne_nil String.utf8EncodeChar_ne_nil
    rw [hcons, hb, List.cons_append, List.cons.injEq] at hbytes
    have := hall b' (hb ▸ List.mem_cons_self)
    rw [hbytes.1] at this
    omega

theorem pair?_of_not_startsEscape {cs : List Char} (h : ¬ StartsEscape cs)
    {high low : UInt8} {tail : Bytes}
    (hbytes : Utf8.encode cs = high :: low :: tail) : pair? high low = none := by
  cases hpair : pair? high low with
  | none => rfl
  | some x =>
      obtain ⟨m, n, hm, hn, -⟩ := pair?_eq_some.1 hpair
      match cs with
      | [] => cases hbytes
      | [_] => cases (char_of_hexDigit? hbytes hm).2
      | first :: second :: rest =>
          obtain ⟨hfirst, hrest⟩ := char_of_hexDigit? hbytes hm
          have hsecond := (char_of_hexDigit? hrest hn).1
          exact absurd ⟨_, _, first, second, rest, rfl, hfirst, hsecond⟩ h

/-- A percent sign that two digits do not follow is kept, and the text before it
and the text after it are decoded as if they stood alone. -/
theorem decodeText_sign (before : List Char) {after : List Char}
    (h : ¬ StartsEscape after) :
    decodeText (before ++ '%' :: after) =
      decodeText before ++ '%' :: decodeText after := by
  have hencode : Utf8.encode (before ++ '%' :: after) =
      Utf8.encode before ++ sign :: Utf8.encode after := List.flatMap_append
  have hkept : decode (sign :: Utf8.encode after) =
      sign :: decode (Utf8.encode after) :=
    decode_cons fun _ high low tail hrest => pair?_of_not_startsEscape h hrest
  rw [decodeText, hencode, decode_append_sign, hkept,
    Utf8.decodeLossy_append_ascii (by decide)]
  rfl

end Percent

namespace Pointer

/-- A fragment that is any way to write a pointer's text denotes the pointer,
and a percent sign that encodes nothing changes nothing around it. -/
theorem ofFragment_inverts_writing :
    (∀ (p : Pointer) (fragment : String),
      Percent.Written p.text.toList fragment.toList →
        ofFragment fragment = some p) ∧
    ∀ before after : List Char, ¬ Percent.StartsEscape after →
      Percent.decodeText (before ++ '%' :: after) =
        Percent.decodeText before ++ '%' :: Percent.decodeText after := by
  refine ⟨fun p fragment h => ?_, fun before after h =>
    Percent.decodeText_sign before h⟩
  rw [ofFragment, Percent.decodeText_of_written h]
  exact parse_text p

/-- Digits of either case, a character of two bytes once encoded and once kept,
and a percent sign at the end with one digit after it. -/
theorem ofFragment_inverts_writing_mixed :
    Percent.Written (Pointer.mk ["a/b", "éü%"]).text.toList
        "/a%7e1b/%C3%a9ü%25".toList ∧
      ofFragment "/a%7e1b/%C3%a9ü%25" = some ⟨["a/b", "éü%"]⟩ ∧
      ¬ Percent.StartsEscape ['2'] ∧
      Percent.decodeText (['/', 'a'] ++ '%' :: ['2']) =
        Percent.decodeText ['/', 'a'] ++ '%' :: Percent.decodeText ['2'] := by
  have htilde : Percent.Triples (String.utf8EncodeChar '~') ['%', '7', 'e'] :=
    .cons (by decide) (by decide) .nil
  have hacute : Percent.Triples (String.utf8EncodeChar 'é')
      ['%', 'C', '3', '%', 'a', '9'] :=
    .cons (by decide) (by decide) (.cons (by decide) (by decide) .nil)
  have hsign : Percent.Triples (String.utf8EncodeChar '%') ['%', '2', '5'] :=
    .cons (by decide) (by decide) .nil
  have hend : Percent.Written ['ü', '%'] ['ü', '%', '2', '5'] :=
    .kept (by decide) (.encoded hsign .nil)
  have hmiddle : Percent.Written ['1', 'b', '/', 'é', 'ü', '%']
      ['1', 'b', '/', '%', 'C', '3', '%', 'a', '9', 'ü', '%', '2', '5'] :=
    .kept (by decide) (.kept (by decide) (.kept (by decide)
      (.encoded hacute hend)))
  have hwritten : Percent.Written (Pointer.mk ["a/b", "éü%"]).text.toList
      "/a%7e1b/%C3%a9ü%25".toList :=
    .kept (by decide) (.kept (by decide) (.encoded htilde hmiddle))
  have hlone : ¬ Percent.StartsEscape ['2'] := by
    rintro ⟨m, n, high, low, rest, h, -⟩
    cases h
  exact ⟨hwritten, ofFragment_inverts_writing.1 _ _ hwritten, hlone,
    ofFragment_inverts_writing.2 _ _ hlone⟩

end Pointer

end SchemaPipeline
