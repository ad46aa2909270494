import SchemaPipeline.Pointer

/-!
# Pointers and their texts

`escape` and `unescape` go through a token once. They can be read as two
replacements of the whole token, one after the other, in this order only: a `~`
is doubled up before the escapes of slashes bring in others, and these are
undone before the text has a `~` of its own again (`escape_eq_expand`,
`unescape_eq_contract`). The first of the two leaves nothing behind that the
second one could take for an escape.

An escaped token has no slash, so the slashes of a text are the ones between its
tokens, and a text is read as the tokens it was written from. The other way
round a text is written as it was read if no `~` in it stands for itself. Such a
`~` is read like `~0`, and that is how it is written.
-/

namespace SchemaPipeline.Pointer

/-- What makes an escape out of a `~` before it. -/
def Completes (cs : List Char) : Prop :=
  cs.head? = some '0' ∨ cs.head? = some '1'

/-- No `~` stands for itself. -/
def Canonical (cs : List Char) : Prop :=
  ∀ before after, cs = before ++ '~' :: after → Completes after

theorem canonical_nil : Canonical [] := by
  rintro before after h
  cases before <;> cases h

theorem canonical_cons {c : Char} {rest : List Char} :
    Canonical (c :: rest) ↔ (c = '~' → Completes rest) ∧ Canonical rest := by
  constructor
  · intro h
    refine ⟨?_, fun before after hrest => h (c :: before) after (by rw [hrest]; rfl)⟩
    rintro rfl
    exact h [] rest rfl
  · rintro ⟨hfirst, hrest⟩ before after h
    cases before with
    | nil =>
        cases h
        exact hfirst rfl
    | cons b before =>
        cases h
        exact hrest before after rfl

/-! ## Steps through a token -/

theorem escape_cons (c : Char) (rest : List Char) :
    escape (c :: rest) = escapeChar c ++ escape rest := rfl

theorem escapeChar_of_ne {c : Char} (htilde : c ≠ '~') (hslash : c ≠ '/') :
    escapeChar c = [c] := by
  rw [escapeChar, if_neg htilde, if_neg hslash]

theorem unescape_cons {c : Char} {rest : List Char}
    (h : c = '~' → ¬ Completes rest) :
    unescape (c :: rest) = c :: unescape rest := by
  rw [unescape]
  · rintro tail rfl rfl
    exact h rfl (.inl rfl)
  · rintro tail rfl rfl
    exact h rfl (.inr rfl)

/-- A token is empty, starts with an escape, or starts with a character that
stands for itself. -/
theorem unescape_rec {motive : List Char → Prop} (nil : motive [])
    (tilde : ∀ rest, motive rest → motive ('~' :: '0' :: rest))
    (slash : ∀ rest, motive rest → motive ('~' :: '1' :: rest))
    (plain : ∀ c rest, (c = '~' → ¬ Completes rest) → motive rest →
      motive (c :: rest)) (cs : List Char) : motive cs := by
  induction cs using unescape.induct with
  | case1 rest ih => exact tilde rest ih
  | case2 rest ih => exact slash rest ih
  | case3 c rest hzero hone ih =>
      refine plain c rest ?_ ih
      rintro hc (h | h)
      · obtain ⟨tail, htail⟩ := List.head?_eq_some_iff.1 h
        exact hzero tail hc htail
      · obtain ⟨tail, htail⟩ := List.head?_eq_some_iff.1 h
        exact hone tail hc htail
  | case4 => exact nil

/-! ## Two replacements in a row -/

/-- Every occurrence of a character replaced by a text. -/
def expand (a : Char) (text cs : List Char) : List Char :=
  cs.flatMap fun c => if c = a then text else [c]

/-- Every occurrence of one character after another replaced by a third, from
the left to the right. -/
def contract (a b c : Char) : List Char → List Char
  | x :: y :: rest =>
    if x = a ∧ y = b then c :: contract a b c rest
    else x :: contract a b c (y :: rest)
  | cs => cs

theorem contract_pair (a b c : Char) (rest : List Char) :
    contract a b c (a :: b :: rest) = c :: contract a b c rest := by
  rw [contract, if_pos ⟨rfl, rfl⟩]

theorem contract_cons {a b c x : Char} {rest : List Char}
    (h : x = a → rest.head? ≠ some b) :
    contract a b c (x :: rest) = x :: contract a b c rest := by
  cases rest with
  | nil => rfl
  | cons y rest =>
      rw [contract, if_neg]
      rintro ⟨hx, rfl⟩
      exact h hx rfl

/-- What comes first after a replacement came first before it, or has been put
there. -/
theorem head?_contract {a b c d : Char} {cs : List Char} (hd : d ≠ c)
    (h : (contract a b c cs).head? = some d) : cs.head? = some d := by
  match cs with
  | [] => exact h
  | [x] => exact h
  | x :: y :: rest =>
      rw [contract] at h
      split at h
      · cases h
        exact absurd rfl hd
      · exact h

theorem escape_eq_expand (cs : List Char) :
    escape cs = expand '/' ['~', '1'] (expand '~' ['~', '0'] cs) := by
  rw [escape, expand, expand, List.flatMap_assoc]
  congr 1
  funext c
  by_cases htilde : c = '~'
  · subst htilde
    rfl
  · by_cases hslash : c = '/'
    · subst hslash
      rfl
    · rw [escapeChar_of_ne htilde hslash, if_neg htilde, List.flatMap_singleton,
        if_neg hslash]

theorem unescape_eq_contract (cs : List Char) :
    unescape cs = contract '~' '0' '~' (contract '~' '1' '/' cs) := by
  induction cs using unescape_rec with
  | nil => rfl
  | tilde rest ih =>
      rw [unescape, ih, contract_cons (c := '/') (by simp),
        contract_cons (c := '/') (by simp), contract_pair]
  | slash rest ih => rw [unescape, ih, contract_pair, contract_cons (by simp)]
  | plain c rest h ih =>
      rw [unescape_cons h, ih, contract_cons (c := '/'), contract_cons]
      · -- the first replacement has put no `0` behind a `~`
        exact fun hc hzero => h hc (.inl (head?_contract (by decide) hzero))
      · exact fun hc hone => h hc (.inr hone)

/-- In the other order the first replacement leaves an escape behind. -/
example : unescape ['~', '0', '1'] = ['~', '1'] ∧
    contract '~' '1' '/' (contract '~' '0' '~' ['~', '0', '1']) = ['/'] := by
  decide

/-! ## Tokens -/

theorem unescape_escape (cs : List Char) : unescape (escape cs) = cs := by
  induction cs with
  | nil => rfl
  | cons c rest ih =>
      rw [escape_cons]
      by_cases htilde : c = '~'
      · subst htilde
        exact congrArg ('~' :: ·) ih
      · by_cases hslash : c = '/'
        · subst hslash
          exact congrArg ('/' :: ·) ih
        · rw [escapeChar_of_ne htilde hslash, List.singleton_append,
            unescape_cons fun h => absurd h htilde, ih]

theorem slash_not_mem_escape (cs : List Char) : '/' ∉ escape cs := by
  intro h
  obtain ⟨c, -, hc⟩ := List.mem_flatMap.1 h
  by_cases htilde : c = '~'
  · subst htilde
    revert hc
    decide
  · by_cases hslash : c = '/'
    · subst hslash
      revert hc
      decide
    · rw [escapeChar_of_ne htilde hslash, List.mem_singleton] at hc
      exact hslash hc.symm

/-- What has no slash is written as it was read if no `~` stands for itself. -/
theorem escape_unescape_iff {cs : List Char} (hslash : '/' ∉ cs) :
    escape (unescape cs) = cs ↔ Canonical cs := by
  induction cs using unescape_rec with
  | nil => exact ⟨fun _ => canonical_nil, fun _ => rfl⟩
  | tilde rest ih =>
      have hrest : '/' ∉ rest := fun h => hslash (by simp [h])
      have hread : escape (unescape ('~' :: '0' :: rest)) =
          '~' :: '0' :: escape (unescape rest) := rfl
      rw [hread, List.cons_inj_right, List.cons_inj_right, ih hrest,
        canonical_cons, canonical_cons]
      simp [Completes]
  | slash rest ih =>
      have hrest : '/' ∉ rest := fun h => hslash (by simp [h])
      have hread : escape (unescape ('~' :: '1' :: rest)) =
          '~' :: '1' :: escape (unescape rest) := rfl
      rw [hread, List.cons_inj_right, List.cons_inj_right, ih hrest,
        canonical_cons, canonical_cons]
      simp [Completes]
  | plain c rest h ih =>
      have hrest : '/' ∉ rest := fun hmem => hslash (List.mem_cons_of_mem _ hmem)
      rw [unescape_cons h, escape_cons, canonical_cons]
      by_cases htilde : c = '~'
      · -- it would be written as `~0`
        subst htilde
        refine ⟨fun heq => ?_, fun hcanonical => absurd (hcanonical.1 rfl) (h rfl)⟩
        have htail : '0' :: escape (unescape rest) = rest := List.tail_eq_of_cons_eq heq
        exact absurd (.inl (by rw [← htail]; rfl)) (h rfl)
      · have hc : c ≠ '/' := fun hc => hslash (hc ▸ List.mem_cons_self)
        rw [escapeChar_of_ne htilde hc, List.singleton_append, List.cons_inj_right,
          ih hrest]
        simp [htilde]

/-! ## Slashes -/

theorem splitSlashes_ne_nil (cs : List Char) : splitSlashes cs ≠ [] := by
  cases cs with
  | nil => exact List.cons_ne_nil _ _
  | cons c rest =>
      rw [splitSlashes]
      split
      · exact List.cons_ne_nil _ _
      · split <;> exact List.cons_ne_nil _ _

theorem splitSlashes_slash (rest : List Char) :
    splitSlashes ('/' :: rest) = [] :: splitSlashes rest := by
  obtain ⟨part, parts, h⟩ := List.exists_cons_of_ne_nil (splitSlashes_ne_nil rest)
  rw [splitSlashes, h]
  rfl

theorem splitSlashes_cons {c : Char} (hc : c ≠ '/') {rest part : List Char}
    {parts : List (List Char)} (h : splitSlashes rest = part :: parts) :
    splitSlashes (c :: rest) = (c :: part) :: parts := by
  rw [splitSlashes, h]
  exact if_neg hc

/-- Parts without slashes, put together with slashes, are found again. -/
theorem splitSlashes_join {part : List Char} {parts : List (List Char)}
    (hpart : '/' ∉ part) (hparts : ∀ q ∈ parts, '/' ∉ q) :
    splitSlashes (part ++ parts.flatMap ('/' :: ·)) = part :: parts := by
  induction parts generalizing part with
  | nil =>
      rw [List.flatMap_nil, List.append_nil]
      induction part with
      | nil => rfl
      | cons c part ih =>
          rw [List.mem_cons, not_or] at hpart
          exact splitSlashes_cons (Ne.symm hpart.1) (ih hpart.2)
  | cons q parts ih =>
      have hrest := ih (hparts q List.mem_cons_self)
        fun r hr => hparts r (List.mem_cons_of_mem _ hr)
      induction part with
      | nil => rw [List.nil_append, List.flatMap_cons, List.cons_append,
          splitSlashes_slash, hrest]
      | cons c part ih' =>
          rw [List.mem_cons, not_or] at hpart
          exact splitSlashes_cons (Ne.symm hpart.1) (ih' hpart.2)

theorem splitSlashes_of_flatMap {parts : List (List Char)} {cs : List Char}
    (hparts : ∀ q ∈ parts, '/' ∉ q) (h : parts.flatMap ('/' :: ·) = '/' :: cs) :
    splitSlashes cs = parts := by
  cases parts with
  | nil => cases h
  | cons part parts =>
      rw [List.flatMap_cons, List.cons_append, List.cons_inj_right] at h
      rw [List.forall_mem_cons] at hparts
      rw [← h, splitSlashes_join hparts.1 hparts.2]

/-- The parts of a text make it up, each after a slash. -/
theorem flatMap_splitSlashes (cs : List Char) :
    (splitSlashes cs).flatMap ('/' :: ·) = '/' :: cs := by
  induction cs with
  | nil => rfl
  | cons c rest ih =>
      by_cases hc : c = '/'
      · subst hc
        rw [splitSlashes_slash, List.flatMap_cons, ih]
        rfl
      · obtain ⟨part, parts, h⟩ :=
          List.exists_cons_of_ne_nil (splitSlashes_ne_nil rest)
        rw [h, List.flatMap_cons, List.cons_append, List.cons_inj_right] at ih
        rw [splitSlashes_cons hc h, List.flatMap_cons, List.cons_append,
          List.cons_append, ih]

theorem slash_not_mem_splitSlashes {cs part : List Char}
    (h : part ∈ splitSlashes cs) : '/' ∉ part := by
  induction cs generalizing part with
  | nil =>
      cases List.mem_singleton.1 h
      exact List.not_mem_nil
  | cons c rest ih =>
      by_cases hc : c = '/'
      · subst hc
        rw [splitSlashes_slash, List.mem_cons] at h
        rcases h with rfl | h
        · exact List.not_mem_nil
        · exact ih h
      · obtain ⟨first, parts, hsplit⟩ :=
          List.exists_cons_of_ne_nil (splitSlashes_ne_nil rest)
        rw [splitSlashes_cons hc hsplit, List.mem_cons] at h
        rw [hsplit] at ih
        rcases h with rfl | h
        · rw [List.mem_cons, not_or]
          exact ⟨Ne.symm hc, ih List.mem_cons_self⟩
        · exact ih (List.mem_cons_of_mem _ h)

/-- A `~` and what comes after it are in one part. -/
theorem completes_splitSlashes {cs part : List Char} {parts : List (List Char)}
    (h : splitSlashes cs = part :: parts) : Completes part ↔ Completes cs := by
  cases cs with
  | nil =>
      cases h
      exact Iff.rfl
  | cons c rest =>
      by_cases hc : c = '/'
      · subst hc
        rw [splitSlashes_slash] at h
        cases h
        simp [Completes]
      · obtain ⟨first, others, hsplit⟩ :=
          List.exists_cons_of_ne_nil (splitSlashes_ne_nil rest)
        rw [splitSlashes_cons hc hsplit] at h
        cases h
        exact Iff.rfl

theorem canonical_splitSlashes {cs : List Char} :
    Canonical cs ↔ ∀ part ∈ splitSlashes cs, Canonical part := by
  induction cs with
  | nil => simp [splitSlashes, canonical_nil]
  | cons c rest ih =>
      by_cases hc : c = '/'
      · subst hc
        rw [canonical_cons, splitSlashes_slash, List.forall_mem_cons, ih]
        simp [canonical_nil]
      · obtain ⟨part, parts, h⟩ :=
          List.exists_cons_of_ne_nil (splitSlashes_ne_nil rest)
        rw [canonical_cons, splitSlashes_cons hc h, List.forall_mem_cons,
          canonical_cons, completes_splitSlashes h, ih, h, List.forall_mem_cons,
          and_assoc]

/-! ## Pointers -/

/-- The escaped tokens of a text are the parts between its slashes. -/
theorem splitSlashes_textChars (t : String) (ts : List String) :
    splitSlashes (escape t.toList ++ textChars ts) =
      (t :: ts).map fun t => escape t.toList := by
  have hjoin : textChars ts = (ts.map fun t => escape t.toList).flatMap ('/' :: ·) := by
    rw [textChars, List.flatMap_map]
  rw [hjoin, splitSlashes_join (slash_not_mem_escape _), List.map_cons]
  intro q hq
  obtain ⟨t, -, rfl⟩ := List.mem_map.1 hq
  exact slash_not_mem_escape _

theorem parse_text (p : Pointer) : parse p.text = some p := by
  obtain ⟨tokens⟩ := p
  rw [parse, text, String.toList_ofList]
  cases tokens with
  | nil => rfl
  | cons t ts =>
      have htext : textChars (t :: ts) = '/' :: (escape t.toList ++ textChars ts) := rfl
      rw [htext, parseChars, splitSlashes_textChars, List.map_map]
      have hread : ∀ t : String, String.ofList (unescape (escape t.toList)) = t := by
        intro t
        rw [unescape_escape, String.ofList_toList]
      simp only [Function.comp_def, hread, List.map_id']

/-- What the parts of a text are written as, once they are read. -/
theorem textChars_splitSlashes (cs : List Char) :
    textChars ((splitSlashes cs).map fun part => String.ofList (unescape part)) =
      ((splitSlashes cs).map fun part => escape (unescape part)).flatMap ('/' :: ·) := by
  rw [textChars, List.flatMap_map, List.flatMap_map]
  simp only [String.toList_ofList]

/-- A text is written as it was read if each of its parts is. -/
theorem textChars_eq_iff (cs : List Char) :
    textChars ((splitSlashes cs).map fun part => String.ofList (unescape part)) =
      '/' :: cs ↔ Canonical cs := by
  let written := (splitSlashes cs).map fun part => escape (unescape part)
  have hslash : ∀ q ∈ written, '/' ∉ q := by
    intro q hq
    obtain ⟨part, -, rfl⟩ := List.mem_map.1 hq
    exact slash_not_mem_escape _
  have hsame : written.flatMap ('/' :: ·) = '/' :: cs ↔ written = splitSlashes cs :=
    ⟨fun h => (splitSlashes_of_flatMap hslash h).symm,
      fun h => h ▸ flatMap_splitSlashes cs⟩
  have hparts : written = splitSlashes cs ↔
      ∀ part ∈ splitSlashes cs, escape (unescape part) = part := by
    rw [← List.map_inj_left, List.map_id']
  rw [textChars_splitSlashes, hsame, hparts, canonical_splitSlashes]
  exact forall₂_congr fun part hpart =>
    escape_unescape_iff (slash_not_mem_splitSlashes hpart)

theorem parse_eq_none_iff (s : String) :
    parse s = none ↔ s ≠ "" ∧ s.toList.head? ≠ some '/' := by
  rw [parse, Ne, ← String.toList_eq_nil_iff]
  match h : s.toList with
  | [] => simp [parseChars]
  | c :: rest =>
      by_cases hc : c = '/'
      · simp [hc, parseChars]
      · simp [hc, parseChars]

/-- A text that is read is written again if no `~` in it stands for itself. -/
theorem text_eq_iff {s : String} {p : Pointer} (h : parse s = some p) :
    p.text = s ↔ Canonical s.toList := by
  rw [parse] at h
  rw [text, ← String.toList_inj, String.toList_ofList]
  match hs : s.toList with
  | [] =>
      rw [hs] at h
      cases h
      exact ⟨fun _ => canonical_nil, fun _ => rfl⟩
  | c :: rest =>
      rw [hs] at h
      by_cases hc : c = '/'
      · subst hc
        cases h
        rw [textChars_eq_iff, canonical_cons]
        simp
      · simp [parseChars, hc] at h

/-- A pointer is what its text is read as. A text is read unless it starts with
something other than a slash, and the pointer has this text again if every `~`
in it is the start of an escape. Reading and writing a token are two
replacements in a row. -/
theorem parse_inverts_text :
    (∀ p : Pointer, parse p.text = some p) ∧
    (∀ s : String,
      (parse s = none ↔ s ≠ "" ∧ s.toList.head? ≠ some '/') ∧
      ∀ p, parse s = some p → (p.text = s ↔ Canonical s.toList)) ∧
    ∀ cs : List Char,
      escape cs = expand '/' ['~', '1'] (expand '~' ['~', '0'] cs) ∧
      unescape cs = contract '~' '0' '~' (contract '~' '1' '/' cs) :=
  ⟨parse_text, fun s => ⟨parse_eq_none_iff s, fun _ h => text_eq_iff h⟩,
    fun cs => ⟨escape_eq_expand cs, unescape_eq_contract cs⟩⟩

end SchemaPipeline.Pointer
