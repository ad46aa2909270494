import SchemaPipeline.Formats.Clock
import SchemaPipeline.Formats.Mailbox
import SchemaPipeline.Formats.Template
import SchemaPipeline.Pattern.Reader
import SchemaPipeline.Schema.Draft
import SchemaPipeline.Uri.Basic

/-!
# Standard formats

The formats that the drafts define, each a predicate on texts. A draft knows the formats that were
defined when it was written, and asks nothing of a text under any other name.
-/

namespace SchemaPipeline.StandardFormat

/-! ## Identifiers -/

def isUriReference (cs : List Char) : Bool := (Uri.parseChars cs).toOption.isSome

def isUri (cs : List Char) : Bool :=
  match Uri.parseChars cs with
  | .ok u => u.scheme.isSome
  | .error _ => false

def isIriReference (cs : List Char) : Bool := (Uri.parseIn .international cs).toOption.isSome

def isIri (cs : List Char) : Bool :=
  match Uri.parseIn .international cs with
  | .ok u => u.scheme.isSome
  | .error _ => false

def isHex (c : Char) : Bool := (Url.radixDigit? c).isSome

def isUuid (cs : List Char) : Bool :=
  let parts := Text.splitOn (· == '-') cs
  parts.map List.length == [8, 4, 4, 4, 12] && parts.all (·.all isHex)

/-! ## Pointers -/

def isEscapedToken : List Char → Bool
  | [] => true
  | '~' :: '0' :: rest => isEscapedToken rest
  | '~' :: '1' :: rest => isEscapedToken rest
  | c :: rest => c != '~' && isEscapedToken rest

def isPointer : List Char → Bool
  | [] => true
  | '/' :: rest => isEscapedToken rest
  | _ => false

def isRelativePointer (cs : List Char) : Bool :=
  let ds := cs.takeWhile Char.isDigit
  let rest := cs.drop ds.length
  !ds.isEmpty && (ds.length == 1 || ds.head? != some '0') && (rest == ['#'] || isPointer rest)

def isRegex (cs : List Char) : Bool := Pattern.isPatternText (String.ofList cs)

/-! ## The table -/

structure Entry where
  name : String
  first : Draft
  holds : List Char → Bool

/-- Each format with the first draft that knows it. -/
def table : List Entry :=
  [⟨"date-time", .draft4, Clock.isDateTime⟩, ⟨"date", .draft4, Clock.isDate⟩,
    ⟨"time", .draft4, Clock.isTime⟩, ⟨"duration", .draft201909, Clock.isDuration⟩,
    ⟨"email", .draft4, Mailbox.isMailbox Mailbox.isHostname⟩,
    ⟨"idn-email", .draft4, Mailbox.isMailbox Idna.isHostname⟩,
    ⟨"hostname", .draft4, Mailbox.isHostname⟩, ⟨"idn-hostname", .draft7, Idna.isHostname⟩,
    ⟨"ipv4", .draft4, Mailbox.isIpv4⟩, ⟨"ipv6", .draft4, Mailbox.isIpv6⟩,
    ⟨"uri", .draft4, isUri⟩, ⟨"uri-reference", .draft6, isUriReference⟩,
    ⟨"iri", .draft7, isIri⟩, ⟨"iri-reference", .draft7, isIriReference⟩,
    ⟨"uri-template", .draft6, Template.isTemplate⟩, ⟨"json-pointer", .draft6, isPointer⟩,
    ⟨"relative-json-pointer", .draft7, isRelativePointer⟩, ⟨"regex", .draft4, isRegex⟩,
    ⟨"uuid", .draft201909, isUuid⟩]

/-- The predicate of a format that a draft knows. -/
def find? (draft : Draft) (name : String) : Option (String → Bool) :=
  (table.find? fun e => e.name == name && draft.since e.first).map fun e s => e.holds s.toList

end SchemaPipeline.StandardFormat
