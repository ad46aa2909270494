import Mathlib.Data.List.Nodup
import SchemaPipeline.Proofs.Config.Spelling
import SchemaPipeline.Proofs.Text.Utf8

/-!
# Settings and their variables

A variable can be unset, it can be set to a text, or it can be set to bytes that
are no text. A text is read by what it spells, and the first one that spells
nothing is the error. Bytes that are no text go unnoticed: the setting has its
default, as if the variable were not set (`ofEnvironment_decides`).

So a variable that is set and cannot be used is always reported, and a default
always stands for a variable that is not set, exactly if the first variable that
cannot be used is at least a text.
-/

namespace SchemaPipeline

namespace Environment

/-- The bytes that a variable is set to. -/
def bytes? (env : Environment) (name : String) : Option Utf8.Bytes :=
  (env.bindings.find? (·.1 == name)).map (·.2)

theorem get?_eq_some_iff {env : Environment} {name text : String} :
    env.get? name = some text ↔ env.bytes? name = some (Utf8.ofString text) := by
  have hbytes : env.get? name =
      ((env.bytes? name).bind Utf8.decode?).map String.ofList := by
    rw [get?, bytes?, Option.bind_map]
    rfl
  rw [hbytes, Option.map_eq_some_iff]
  constructor
  · rintro ⟨cs, hcs, rfl⟩
    obtain ⟨bytes, hset, hread⟩ := Option.bind_eq_some_iff.1 hcs
    rw [hset, Utf8.decode?_eq_some_iff.1 hread, Utf8.ofString,
      String.toList_ofList]
  · intro hset
    refine ⟨text.toList, ?_, String.ofList_toList⟩
    rw [hset, Option.bind_some, Utf8.decode?_eq_some_iff, Utf8.ofString]

end Environment

/-! ## The first of a list -/

/-- The first element of a list that has a property. -/
def FirstIn {β : Type*} (l : List β) (P : β → Prop) (b : β) : Prop :=
  ∃ before after, l = before ++ b :: after ∧ P b ∧ ∀ x ∈ before, ¬ P x

namespace FirstIn

variable {β : Type*} {l : List β} {P : β → Prop} {a b : β}

theorem mem (h : FirstIn l P b) : b ∈ l := by
  obtain ⟨before, after, rfl, -, -⟩ := h
  exact List.mem_append_right _ List.mem_cons_self

theorem holds (h : FirstIn l P b) : P b := by
  obtain ⟨_, _, -, hb, -⟩ := h
  exact hb

theorem not_nil : ¬ FirstIn [] P b := by
  rintro ⟨before, after, heq, -⟩
  cases before <;> cases heq

theorem cons_iff : FirstIn (a :: l) P b ↔
    a = b ∧ P b ∨ ¬ P a ∧ FirstIn l P b := by
  constructor
  · rintro ⟨before, after, heq, hb, hbefore⟩
    cases before with
    | nil =>
        cases heq
        exact .inl ⟨rfl, hb⟩
    | cons x before =>
        cases heq
        exact .inr ⟨hbefore a List.mem_cons_self, before, after, rfl, hb,
          fun x hx => hbefore x (List.mem_cons_of_mem _ hx)⟩
  · rintro (⟨rfl, ha⟩ | ⟨ha, before, after, rfl, hb, hbefore⟩)
    · exact ⟨[], l, rfl, ha, nofun⟩
    · refine ⟨a :: before, after, rfl, hb, fun x hx => ?_⟩
      rcases List.mem_cons.1 hx with rfl | hx
      · exact ha
      · exact hbefore x hx

theorem exists_of_mem (hmem : b ∈ l) (hb : P b) : ∃ c, FirstIn l P c := by
  induction l with
  | nil => cases hmem
  | cons a l ih =>
      by_cases ha : P a
      · exact ⟨a, cons_iff.2 (.inl ⟨rfl, ha⟩)⟩
      · rcases List.mem_cons.1 hmem with rfl | hmem
        · exact absurd hb ha
        · obtain ⟨c, hc⟩ := ih hmem
          exact ⟨c, cons_iff.2 (.inr ⟨ha, hc⟩)⟩

theorem unique (ha : FirstIn l P a) (hb : FirstIn l P b) : a = b := by
  induction l with
  | nil => exact absurd ha not_nil
  | cons x l ih =>
      rcases cons_iff.1 ha with ⟨rfl, hx⟩ | ⟨hx, ha⟩
      · rcases cons_iff.1 hb with ⟨rfl, -⟩ | ⟨hnot, -⟩
        · rfl
        · exact absurd hx hnot
      · rcases cons_iff.1 hb with ⟨rfl, hpos⟩ | ⟨-, hb⟩
        · exact absurd hpos hx
        · exact ih ha hb

theorem append (h : FirstIn l P b) (rest : List β) : FirstIn (l ++ rest) P b := by
  obtain ⟨before, after, rfl, hb, hbefore⟩ := h
  exact ⟨before, after ++ rest, by simp, hb, hbefore⟩

end FirstIn

namespace Config

/-! ## Settings -/

/-- What can be set: the variable, the value if it is not set, and which texts
spell which values. -/
structure Setting (α : Type) where
  variableName : String
  default : α
  Spells : String → α → Prop

namespace Setting

variable {α : Type} (s : Setting α) (env : Environment)

/-- The variable is set to bytes that are no text. -/
def Illegible : Prop :=
  ∃ bytes, env.bytes? s.variableName = some bytes ∧
    ∀ text, bytes ≠ Utf8.ofString text

/-- The variable is set to a text that spells no value. -/
def Misspells (text : String) : Prop :=
  env.bytes? s.variableName = some (Utf8.ofString text) ∧
    ∀ a, ¬ s.Spells text a

/-- The variable is set to bytes that are no text with a value. -/
def Unusable : Prop :=
  ∃ bytes, env.bytes? s.variableName = some bytes ∧
    ∀ text a, bytes = Utf8.ofString text → ¬ s.Spells text a

/-- The value that the variable spells if it is set, and the default if not. -/
def Determines (a : α) : Prop :=
  env.bytes? s.variableName = none ∧ a = s.default ∨
    ∃ text, env.bytes? s.variableName = some (Utf8.ofString text) ∧
      s.Spells text a

/-- The value that the variable spells if it is set to a text, and the default if
not. -/
def Takes (a : α) : Prop :=
  (∀ text, env.bytes? s.variableName ≠ some (Utf8.ofString text)) ∧
      a = s.default ∨
    ∃ text, env.bytes? s.variableName = some (Utf8.ofString text) ∧
      s.Spells text a

variable {s env}

theorem unusable_iff :
    s.Unusable env ↔ s.Illegible env ∨ ∃ text, s.Misspells env text := by
  constructor
  · rintro ⟨bytes, hset, hno⟩
    by_cases htext : ∃ text, bytes = Utf8.ofString text
    · obtain ⟨text, rfl⟩ := htext
      exact .inr ⟨text, hset, fun a => hno text a rfl⟩
    · exact .inl ⟨bytes, hset, fun text heq => htext ⟨text, heq⟩⟩
  · rintro (⟨bytes, hset, hno⟩ | ⟨text, hset, hno⟩)
    · exact ⟨bytes, hset, fun text _ heq => absurd heq (hno text)⟩
    · refine ⟨_, hset, fun other a heq => ?_⟩
      rw [← Utf8.ofString_injective heq]
      exact hno a

theorem not_illegible_of_misspells {text : String}
    (h : s.Misspells env text) : ¬ s.Illegible env := by
  rintro ⟨bytes, hset, hno⟩
  exact hno text (Option.some.inj (hset.symm.trans h.1))

/-- The value that is taken is the one that is determined, unless the variable is
set to no text. -/
theorem determines_iff {a : α} :
    s.Determines env a ↔ s.Takes env a ∧ ¬ s.Illegible env := by
  constructor
  · rintro (⟨hunset, rfl⟩ | ⟨text, hset, hspells⟩)
    · refine ⟨.inl ⟨fun text => by rw [hunset]; nofun, rfl⟩, ?_⟩
      rintro ⟨bytes, hset, -⟩
      rw [hunset] at hset
      cases hset
    · refine ⟨.inr ⟨text, hset, hspells⟩, ?_⟩
      rintro ⟨bytes, hset', hno⟩
      exact hno text (Option.some.inj (hset'.symm.trans hset))
  · rintro ⟨⟨hno, rfl⟩ | hset, hlegible⟩
    · refine .inl ⟨?_, rfl⟩
      cases hset : env.bytes? s.variableName with
      | none => rfl
      | some bytes =>
          exact absurd ⟨bytes, hset, fun text heq => hno text (heq ▸ hset)⟩
            hlegible
    · exact .inr hset

/-- A value is taken unless the variable is set to a text without one. -/
theorem exists_takes_iff :
    (∃ a, s.Takes env a) ↔ ¬ ∃ text, s.Misspells env text := by
  constructor
  · rintro ⟨a, ⟨hno, -⟩ | ⟨text, hset, hspells⟩⟩ ⟨other, hother, hnone⟩
    · exact hno other hother
    · rw [hset] at hother
      have heq := Utf8.ofString_injective (Option.some.inj hother)
      exact hnone a (heq ▸ hspells)
  · intro h
    by_cases htext : ∃ text, env.bytes? s.variableName = some (Utf8.ofString text)
    · obtain ⟨text, hset⟩ := htext
      by_contra hnone
      exact h ⟨text, hset, fun a hspells => hnone ⟨a, .inr ⟨text, hset, hspells⟩⟩⟩
    · exact ⟨s.default, .inl ⟨fun text hset => htext ⟨text, hset⟩, rfl⟩⟩

/-- The error that a text without a value is. -/
def Rejects (s : Setting α) (env : Environment) (e : ConfigError) : Prop :=
  e.variableName = s.variableName ∧ s.Misspells env e.value

end Setting

/-! ## Reading a variable -/

section

variable {α β : Type} {env : Environment} {s : Setting α}
  {parse : String → Option α}

/-- A parser that reads the values that texts spell. -/
def Setting.ReadBy (s : Setting α) (parse : String → Option α) : Prop :=
  ∀ text a, parse text = some a ↔ s.Spells text a

/-- The value of a setting. -/
def Setting.read (s : Setting α) (parse : String → Option α)
    (env : Environment) : Except ConfigError α :=
  env.read s.variableName parse s.default

theorem takes_iff_get? {a : α} : s.Takes env a ↔
    env.get? s.variableName = none ∧ a = s.default ∨
      ∃ text, env.get? s.variableName = some text ∧ s.Spells text a := by
  simp only [Setting.Takes, ← Environment.get?_eq_some_iff, ne_eq,
    Option.eq_none_iff_forall_ne_some]

theorem misspells_iff_get? {text : String} : s.Misspells env text ↔
    env.get? s.variableName = some text ∧ ∀ a, ¬ s.Spells text a := by
  rw [Setting.Misspells, Environment.get?_eq_some_iff]

theorem read_eq_ok_iff (hs : s.ReadBy parse) {a : α} :
    s.read parse env = .ok a ↔ s.Takes env a := by
  rw [takes_iff_get?, Setting.read, Environment.read]
  cases env.get? s.variableName with
  | none => simp [eq_comm]
  | some raw =>
      have hraw := hs raw a
      cases hparse : parse raw with
      | none => simp [← hraw, hparse]
      | some b => simp [← hraw, hparse]

theorem read_eq_error_iff (hs : s.ReadBy parse) {e : ConfigError} :
    s.read parse env = .error e ↔ s.Rejects env e := by
  obtain ⟨name, value⟩ := e
  rw [Setting.Rejects, misspells_iff_get?, Setting.read, Environment.read]
  cases env.get? s.variableName with
  | none => simp
  | some raw =>
      cases hraw : parse raw with
      | none =>
          have hno : ∀ a, ¬ s.Spells raw a := fun a hspells => by
            rw [(hs raw a).2 hspells] at hraw
            cases hraw
          simp only [hraw]
          constructor
          · rintro ⟨⟩
            exact ⟨rfl, rfl, hno⟩
          · rintro ⟨rfl, heq, -⟩
            cases heq
            rfl
      | some a =>
          have hspells := (hs raw a).1 hraw
          simp only [hraw]
          refine ⟨nofun, ?_⟩
          rintro ⟨-, heq, hno⟩
          cases heq
          exact absurd hspells (hno a)

/-- After a setting that has a value the others decide. -/
theorem bind_read_eq_ok_iff (hs : s.ReadBy parse)
    {f : α → Except ConfigError β} {b : β} :
    s.read parse env >>= f = .ok b ↔ ∃ a, s.Takes env a ∧ f a = .ok b := by
  simp only [← read_eq_ok_iff hs]
  cases s.read parse env <;> simp [bind, Except.bind]

theorem bind_read_eq_error_iff (hs : s.ReadBy parse)
    {f : α → Except ConfigError β} {e : ConfigError} :
    s.read parse env >>= f = .error e ↔
      s.Rejects env e ∨ ∃ a, s.Takes env a ∧ f a = .error e := by
  simp only [← read_eq_ok_iff hs, ← read_eq_error_iff hs]
  cases s.read parse env <;> simp [bind, Except.bind]

end

/-! ## The settings of a configuration -/

def draftSetting : Setting DraftChoice :=
  ⟨draftVariable, default.draft, SpellsDraft⟩

def formatsSetting : Setting Bool :=
  ⟨formatsVariable, default.validateFormats, SpellsFlag⟩

def defaultsSetting : Setting Bool :=
  ⟨defaultsVariable, default.useDefaults, SpellsFlag⟩

def fillSetting : Setting Bool :=
  ⟨fillVariable, default.fillUndefined, SpellsFlag⟩

def timeoutSetting : Setting Nat :=
  ⟨timeoutVariable, default.fetchTimeoutSecs, SpellsCount⟩

/-- Every text is a user agent. -/
def agentSetting : Setting String :=
  ⟨agentVariable, default.userAgent, Eq⟩

/-- The settings that not every text spells a value of, in their order. -/
def spelledSettings : List ((α : Type) × Setting α) :=
  [⟨_, draftSetting⟩, ⟨_, formatsSetting⟩, ⟨_, defaultsSetting⟩,
    ⟨_, fillSetting⟩, ⟨_, timeoutSetting⟩]

def allSettings : List ((α : Type) × Setting α) :=
  spelledSettings ++ [⟨_, agentSetting⟩]

/-- Every field of a configuration stands in a relation to its setting. -/
structure Follows (R : ∀ {α : Type}, Setting α → α → Prop) (c : Config) :
    Prop where
  draft : R draftSetting c.draft
  validateFormats : R formatsSetting c.validateFormats
  useDefaults : R defaultsSetting c.useDefaults
  fillUndefined : R fillSetting c.fillUndefined
  fetchTimeoutSecs : R timeoutSetting c.fetchTimeoutSecs
  userAgent : R agentSetting c.userAgent

namespace Follows

variable {R R' : ∀ {α : Type}, Setting α → α → Prop} {c : Config}

theorem exists_value (h : c.Follows R) : ∀ s ∈ allSettings, ∃ a, R s.2 a := by
  simp only [allSettings, spelledSettings, List.cons_append, List.nil_append,
    List.forall_mem_cons]
  exact ⟨⟨_, h.draft⟩, ⟨_, h.validateFormats⟩, ⟨_, h.useDefaults⟩,
    ⟨_, h.fillUndefined⟩, ⟨_, h.fetchTimeoutSecs⟩, ⟨_, h.userAgent⟩, nofun⟩

theorem imp (h : c.Follows R)
    (himp : ∀ s ∈ allSettings, ∀ a, R s.2 a → R' s.2 a) : c.Follows R' := by
  simp only [allSettings, spelledSettings, List.cons_append, List.nil_append,
    List.forall_mem_cons] at himp
  obtain ⟨draft, formats, defaults, fill, timeout, agent, -⟩ := himp
  exact ⟨draft _ h.draft, formats _ h.validateFormats, defaults _ h.useDefaults,
    fill _ h.fillUndefined, timeout _ h.fetchTimeoutSecs, agent _ h.userAgent⟩

end Follows

theorem draftSetting_readBy : draftSetting.ReadBy parseDraft :=
  fun _ _ => parseDraft_eq_some_iff

theorem formatsSetting_readBy : formatsSetting.ReadBy parseFlag :=
  fun _ _ => parseFlag_eq_some_iff

theorem defaultsSetting_readBy : defaultsSetting.ReadBy parseFlag :=
  fun _ _ => parseFlag_eq_some_iff

theorem fillSetting_readBy : fillSetting.ReadBy parseFlag :=
  fun _ _ => parseFlag_eq_some_iff

theorem timeoutSetting_readBy : timeoutSetting.ReadBy parseCount :=
  fun _ _ => parseCount_eq_some_iff

theorem agentSetting_readBy : agentSetting.ReadBy some :=
  fun _ _ => Option.some_inj

theorem ofEnvironment_eq (env : Environment) :
    ofEnvironment env = (do
      let draft ← draftSetting.read parseDraft env
      let formats ← formatsSetting.read parseFlag env
      let defaults ← defaultsSetting.read parseFlag env
      let fill ← fillSetting.read parseFlag env
      let timeout ← timeoutSetting.read parseCount env
      let agent ← agentSetting.read some env
      .ok ⟨draft, formats, defaults, fill, timeout, agent⟩) := rfl

/-- A configuration is read if each field is a value that its setting takes. -/
theorem ofEnvironment_eq_ok_iff {env : Environment} {c : Config} :
    ofEnvironment env = .ok c ↔ c.Follows fun s a => s.Takes env a := by
  simp only [ofEnvironment_eq, bind_read_eq_ok_iff draftSetting_readBy,
    bind_read_eq_ok_iff formatsSetting_readBy,
    bind_read_eq_ok_iff defaultsSetting_readBy,
    bind_read_eq_ok_iff fillSetting_readBy,
    bind_read_eq_ok_iff timeoutSetting_readBy,
    bind_read_eq_ok_iff agentSetting_readBy]
  constructor
  · rintro ⟨d, hd, f, hf, u, hu, l, hl, t, ht, a, ha, heq⟩
    cases heq
    exact ⟨hd, hf, hu, hl, ht, ha⟩
  · rintro ⟨hd, hf, hu, hl, ht, ha⟩
    exact ⟨_, hd, _, hf, _, hu, _, hl, _, ht, _, ha, rfl⟩

/-- The error that the first setting in a list is whose text spells no value. -/
def Blames (env : Environment) (settings : List ((α : Type) × Setting α))
    (e : ConfigError) : Prop :=
  ∃ s, FirstIn settings (fun s => ∃ text, s.2.Misspells env text) s ∧
    s.2.Rejects env e

theorem blames_nil {env : Environment} {e : ConfigError} :
    Blames env [] e ↔ False :=
  ⟨fun ⟨_, hfirst, _⟩ => FirstIn.not_nil hfirst, False.elim⟩

theorem blames_cons {env : Environment} {s : (α : Type) × Setting α}
    {settings : List ((α : Type) × Setting α)} {e : ConfigError} :
    Blames env (s :: settings) e ↔
      s.2.Rejects env e ∨ (∃ a, s.2.Takes env a) ∧ Blames env settings e := by
  rw [Setting.exists_takes_iff]
  constructor
  · rintro ⟨t, hfirst, hrejects⟩
    rcases FirstIn.cons_iff.1 hfirst with ⟨rfl, -⟩ | ⟨hno, hfirst⟩
    · exact .inl hrejects
    · exact .inr ⟨hno, t, hfirst, hrejects⟩
  · rintro (hrejects | ⟨hno, t, hfirst, hrejects⟩)
    · exact ⟨s, FirstIn.cons_iff.2 (.inl ⟨rfl, e.value, hrejects.2⟩), hrejects⟩
    · exact ⟨t, FirstIn.cons_iff.2 (.inr ⟨hno, hfirst⟩), hrejects⟩

theorem not_rejects_agent {env : Environment} {e : ConfigError} :
    ¬ agentSetting.Rejects env e :=
  fun ⟨_, _, hno⟩ => hno e.value rfl

/-- The error is the first setting whose text spells no value. -/
theorem ofEnvironment_eq_error_iff {env : Environment} {e : ConfigError} :
    ofEnvironment env = .error e ↔ Blames env spelledSettings e := by
  simp only [ofEnvironment_eq, bind_read_eq_error_iff draftSetting_readBy,
    bind_read_eq_error_iff formatsSetting_readBy,
    bind_read_eq_error_iff defaultsSetting_readBy,
    bind_read_eq_error_iff fillSetting_readBy,
    bind_read_eq_error_iff timeoutSetting_readBy,
    bind_read_eq_error_iff agentSetting_readBy, not_rejects_agent,
    reduceCtorEq, and_false, exists_false, or_false, spelledSettings,
    blames_cons, blames_nil, exists_and_right]

/-! ## What goes unnoticed -/

/-- An environment is read in such a way that nothing goes unnoticed: the error is
the first setting that cannot be used, and in a configuration a default stands
only for a variable that is not set. -/
def Noticed (env : Environment) : Except ConfigError Config → Prop
  | .error e => ∃ s, FirstIn spelledSettings (·.2.Unusable env) s ∧
      e.variableName = s.2.variableName
  | .ok c => c.Follows fun s a => s.Determines env a

section

variable {env : Environment} {s : (α : Type) × Setting α}

theorem eq_of_variableName {t : (α : Type) × Setting α}
    (hs : s ∈ spelledSettings) (ht : t ∈ spelledSettings)
    (h : s.2.variableName = t.2.variableName) : s = t := by
  have hnodup : (spelledSettings.map (·.2.variableName)).Nodup := by decide
  exact List.inj_on_of_nodup_map hnodup hs ht h

/-- The first setting that cannot be used is the first one that is misspelled,
unless it is no text. -/
theorem firstIn_misspells {settings : List ((α : Type) × Setting α)}
    (h : FirstIn settings (·.2.Unusable env) s) (hs : ¬ s.2.Illegible env) :
    FirstIn settings (fun s => ∃ text, s.2.Misspells env text) s := by
  obtain ⟨before, after, heq, hunusable, hbefore⟩ := h
  refine ⟨before, after, heq, ?_, fun t ht hmisspells => ?_⟩
  · exact (Setting.unusable_iff.1 hunusable).resolve_left hs
  · exact hbefore t ht (Setting.unusable_iff.2 (.inr hmisspells))

theorem noticed_error_iff {e : ConfigError} (he : Blames env spelledSettings e) :
    Noticed env (.error e) ↔ ∀ s, FirstIn allSettings (·.2.Unusable env) s →
      ¬ s.2.Illegible env := by
  obtain ⟨s, hfirst, hname, hmisspells⟩ := he
  constructor
  · rintro ⟨t, ht, htname⟩ u hu
    have hts : t = s := eq_of_variableName ht.mem hfirst.mem
      (htname.symm.trans hname)
    rw [hu.unique (ht.append _), hts]
    exact Setting.not_illegible_of_misspells hmisspells
  · intro hlegible
    have hunusable : s.2.Unusable env :=
      Setting.unusable_iff.2 (.inr ⟨_, hmisspells⟩)
    obtain ⟨t, ht⟩ := FirstIn.exists_of_mem (P := (·.2.Unusable env))
      hfirst.mem hunusable
    have hts := (firstIn_misspells ht (hlegible t (ht.append _))).unique hfirst
    exact ⟨t, ht, hts ▸ hname⟩

theorem noticed_ok_iff {c : Config} (hc : c.Follows fun s a => s.Takes env a) :
    Noticed env (.ok c) ↔ ∀ s, FirstIn allSettings (·.2.Unusable env) s →
      ¬ s.2.Illegible env := by
  have hspelled : ∀ s ∈ allSettings, ¬ ∃ text, s.2.Misspells env text :=
    fun s hs => Setting.exists_takes_iff.1 (hc.exists_value s hs)
  constructor
  · intro hnoticed s hs
    obtain ⟨a, ha⟩ := Follows.exists_value hnoticed s hs.mem
    exact (Setting.determines_iff.1 ha).2
  · intro hfirst
    refine hc.imp fun s hs a ha => Setting.determines_iff.2 ⟨ha, fun hno => ?_⟩
    obtain ⟨t, ht⟩ := FirstIn.exists_of_mem (P := (·.2.Unusable env)) hs
      (Setting.unusable_iff.2 (.inl hno))
    -- what cannot be used has no text, since no text is misspelled
    exact hspelled t ht.mem
      ((Setting.unusable_iff.1 ht.holds).resolve_left (hfirst t ht))

end

/-- An environment gives a configuration or the first setting whose text spells no
value. Nothing that is set goes unnoticed exactly if the first setting that cannot
be used is a text. -/
theorem ofEnvironment_decides (env : Environment) :
    (∀ e, ofEnvironment env = .error e ↔
      ∃ s, FirstIn spelledSettings (fun s => ∃ text, s.2.Misspells env text) s ∧
        s.2.Rejects env e) ∧
    (∀ c, ofEnvironment env = .ok c ↔ c.Follows fun s a => s.Takes env a) ∧
    (Noticed env (ofEnvironment env) ↔
      ∀ s, FirstIn allSettings (·.2.Unusable env) s → ¬ s.2.Illegible env) := by
  refine ⟨fun e => ofEnvironment_eq_error_iff, fun c => ofEnvironment_eq_ok_iff, ?_⟩
  cases hread : ofEnvironment env with
  | error e => exact noticed_error_iff (ofEnvironment_eq_error_iff.1 hread)
  | ok c => exact noticed_ok_iff (ofEnvironment_eq_ok_iff.1 hread)

/-- A draft that is no text. -/
def garbled : Environment := ⟨[(draftVariable, [0xff])]⟩

/-- The draft is set, cannot be used, and has its default. -/
theorem exists_unnoticed : ¬ ∀ env, Noticed env (ofEnvironment env) := by
  intro h
  have hread : ofEnvironment garbled = .ok default := by decide
  have hset : garbled.bytes? draftVariable = some [0xff] := by decide
  have hnoticed := h garbled
  rw [hread] at hnoticed
  rcases hnoticed.draft with ⟨hunset, -⟩ | ⟨text, htext, -⟩
  · rw [show draftSetting.variableName = draftVariable from rfl, hset] at hunset
    cases hunset
  · have hbytes : [0xff] = Utf8.encode text.toList :=
      Option.some.inj (hset.symm.trans htext)
    have hdecode := Utf8.decode?_eq_some_iff.2 hbytes
    cases hdecode

end Config

end SchemaPipeline
