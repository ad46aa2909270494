import SchemaPipeline.Unicode.Case
import SchemaPipeline.Unicode.Category
import SchemaPipeline.Unicode.Property
import SchemaPipeline.Unicode.Script

/-!
# Names of tables

The names under which scripts, categories and properties are asked for. Each has a name in its table
and others beside it, and they all mean the same in upper and lower case, with or without blanks,
underscores and hyphens, and with or without `is` in front.
-/

namespace SchemaPipeline.Unicode

/-! ## Loose matching -/

def isFiller (c : Char) : Bool := c == ' ' || c == '_' || c == '-'

def startsWithIs : List Char → Bool
  | a :: b :: _ => a.toLower == 'i' && b.toLower == 's'
  | _ => false

/-- What names have in common that mean the same. The name of a property that is not kept here
begins with `is` and goes on with the name of a category; it does not mean that one. -/
def looseName (cs : List Char) : List Char :=
  let body := if startsWithIs cs then cs.drop 2 else cs
  let loose := (body.filter fun c => c.toNat < 0x80 && !isFiller c).map Char.toLower
  if startsWithIs cs && loose == ['c'] then ['i', 's', 'c'] else loose

/-- The names that a word lists, of which the first is the one in the table. -/
def splitNames (word : List Char) : List (List Char) :=
  let s := word.foldl (fun s c => if c == '=' then ⟨s.close, []⟩ else ⟨s.words, c :: s.current⟩)
    (⟨[], []⟩ : WordState)
  s.close.reverse

/-- Loose names with the names in a table, from words of names that mean the same. -/
def namesOfText (text : String) : List (List Char × String) :=
  (words text).flatMap fun word =>
    let names := splitNames word
    names.map fun name => (looseName name, String.ofList (names.headD []))

def categoryNames : List (List Char × String) := namesOfText "
C=Other Cc=Control=Cntrl Cf=Format Cn=Unassigned Co=Private_Use Cs=Surrogate L=Letter
LC=Cased_Letter Ll=Lowercase_Letter Lm=Modifier_Letter Lo=Other_Letter Lt=Titlecase_Letter
Lu=Uppercase_Letter M=Mark=Combining_Mark Mc=Spacing_Mark Me=Enclosing_Mark Mn=Nonspacing_Mark
N=Number Nd=Decimal_Number=Digit Nl=Letter_Number No=Other_Number P=Punctuation=Punct
Pc=Connector_Punctuation Pd=Dash_Punctuation Pe=Close_Punctuation Pf=Final_Punctuation
Pi=Initial_Punctuation Po=Other_Punctuation Ps=Open_Punctuation S=Symbol Sc=Currency_Symbol
Sk=Modifier_Symbol Sm=Math_Symbol So=Other_Symbol Z=Separator Zl=Line_Separator
Zp=Paragraph_Separator Zs=Space_Separator
"

def scriptNames : List (List Char × String) := namesOfText "
Adlam=Adlm Caucasian_Albanian=Aghb Ahom Arabic=Arab Imperial_Aramaic=Armi Armenian=Armn
Avestan=Avst Balinese=Bali Bamum=Bamu Bassa_Vah=Bass Batak=Batk Bengali=Beng Bhaiksuki=Bhks
Bopomofo=Bopo Brahmi=Brah Braille=Brai Buginese=Bugi Buhid=Buhd Chakma=Cakm
Canadian_Aboriginal=Cans Carian=Cari Cham Cherokee=Cher Chorasmian=Chrs Coptic=Copt=Qaac
Cypro_Minoan=Cpmn Cypriot=Cprt Cyrillic=Cyrl Devanagari=Deva Dives_Akuru=Diak Dogra=Dogr
Deseret=Dsrt Duployan=Dupl Egyptian_Hieroglyphs=Egyp Elbasan=Elba Elymaic=Elym Ethiopic=Ethi
Georgian=Geor Glagolitic=Glag Gunjala_Gondi=Gong Masaram_Gondi=Gonm Gothic=Goth Grantha=Gran
Greek=Grek Gujarati=Gujr Gurmukhi=Guru Hangul=Hang Han=Hani Hanunoo=Hano Hatran=Hatr Hebrew=Hebr
Hiragana=Hira Anatolian_Hieroglyphs=Hluw Pahawh_Hmong=Hmng Nyiakeng_Puachue_Hmong=Hmnp
Old_Hungarian=Hung Old_Italic=Ital Javanese=Java Kayah_Li=Kali Katakana=Kana Kawi Kharoshthi=Khar
Khmer=Khmr Khojki=Khoj Khitan_Small_Script=Kits Kannada=Knda Kaithi=Kthi Tai_Tham=Lana Lao=Laoo
Latin=Latn Lepcha=Lepc Limbu=Limb Linear_A=Lina Linear_B=Linb Lisu Lycian=Lyci Lydian=Lydi
Mahajani=Mahj Makasar=Maka Mandaic=Mand Manichaean=Mani Marchen=Marc Medefaidrin=Medf
Mende_Kikakui=Mend Meroitic_Cursive=Merc Meroitic_Hieroglyphs=Mero Malayalam=Mlym Modi
Mongolian=Mong Mro=Mroo Meetei_Mayek=Mtei Multani=Mult Myanmar=Mymr Nag_Mundari=Nagm
Nandinagari=Nand Old_North_Arabian=Narb Nabataean=Nbat Newa Nko=Nkoo Nushu=Nshu Ogham=Ogam
Ol_Chiki=Olck Old_Turkic=Orkh Oriya=Orya Osage=Osge Osmanya=Osma Old_Uyghur=Ougr Palmyrene=Palm
Pau_Cin_Hau=Pauc Old_Permic=Perm Phags_Pa=Phag Inscriptional_Pahlavi=Phli Psalter_Pahlavi=Phlp
Phoenician=Phnx Miao=Plrd Inscriptional_Parthian=Prti Rejang=Rjng Hanifi_Rohingya=Rohg Runic=Runr
Samaritan=Samr Old_South_Arabian=Sarb Saurashtra=Saur SignWriting=Sgnw Shavian=Shaw Sharada=Shrd
Siddham=Sidd Khudawadi=Sind Sinhala=Sinh Sogdian=Sogd Old_Sogdian=Sogo Sora_Sompeng=Sora
Soyombo=Soyo Sundanese=Sund Syloti_Nagri=Sylo Syriac=Syrc Tagbanwa=Tagb Takri=Takr Tai_Le=Tale
New_Tai_Lue=Talu Tamil=Taml Tangut=Tang Tai_Viet=Tavt Telugu=Telu Tifinagh=Tfng Tagalog=Tglg
Thaana=Thaa Thai Tibetan=Tibt Tirhuta=Tirh Tangsa=Tnsa Toto Ugaritic=Ugar Vai=Vaii Vithkuqi=Vith
Warang_Citi=Wara Wancho=Wcho Old_Persian=Xpeo Cuneiform=Xsux Yezidi=Yezi Yi=Yiii
Zanabazar_Square=Zanb Inherited=Zinh=Qaai Common=Zyyy Unknown=Zzzz Garay=Gara Gurung_Khema=Gukh
Kirat_Rai=Krai Ol_Onal=Onao Sunuwar=Sunu Todhri=Todr Tulu_Tigalari=Tutg
"

def propertyNames : List (List Char × String) := namesOfText "
ASCII_Hex_Digit=AHex Alphabetic=Alpha Bidi_Control=Bidi_C Bidi_Mirrored=Bidi_M Case_Ignorable=CI
Cased Changes_When_Casefolded=CWCF Changes_When_Casemapped=CWCM Changes_When_Lowercased=CWL
Changes_When_Titlecased=CWT Changes_When_Uppercased=CWU Dash Default_Ignorable_Code_Point=DI
Deprecated=Dep Diacritic=Dia Emoji Emoji_Component=EComp Emoji_Modifier=EMod
Emoji_Modifier_Base=EBase Emoji_Presentation=EPres Extended_Pictographic=ExtPict Extender=Ext
Grapheme_Base=Gr_Base Grapheme_Extend=Gr_Ext Hex_Digit=Hex ID_Continue=IDC ID_Start=IDS
Ideographic=Ideo IDS_Binary_Operator=IDSB IDS_Trinary_Operator=IDST Join_Control=Join_C
Logical_Order_Exception=LOE Lowercase=Lower Math Noncharacter_Code_Point=NChar
Pattern_Syntax=Pat_Syn Pattern_White_Space=Pat_WS Quotation_Mark=QMark Radical
Regional_Indicator=RI Sentence_Terminal=STerm Soft_Dotted=SD Terminal_Punctuation=Term
Unified_Ideograph=UIdeo Uppercase=Upper Variation_Selector=VS White_Space=WSpace=Space
XID_Continue=XIDC XID_Start=XIDS
"

/-! ## Groups of categories -/

/-- The categories that a group is made of; a group is named by the letter they start with, but for
the cased letters. -/
def categoriesOf (name : String) : List String :=
  if name = "LC" then ["Lu", "Ll", "Lt"]
  else
    let names := categoryTable.map (·.1)
    match name.toList with
    | [letter] => names.filter fun n => n.toList.head? == some letter
    | _ => names.filter (· == name)

end SchemaPipeline.Unicode
