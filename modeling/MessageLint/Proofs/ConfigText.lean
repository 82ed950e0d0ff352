import Mathlib.Data.Finset.Basic
import Mathlib.Data.Finset.Lattice.Lemmas
import MessageLint.Proofs.Json.Skipping
import MessageLint.Service

/-!
# MessageLint — configurations as text

A configuration may be given in part, with its keys in any order and with keys that mean nothing
here. Which configuration a text gives is said for any JSON text of an object (`ObjectText`): the
fields that it holds come from the text, all others keep their defaults.

* `Holds` — the members of an object give some of the fields of a configuration, each once.
* `readMembers_row` — what reading the members does to the fields that have been read, by induction
  along the row of members.
* `parse_of_holds` — the configuration of a whole text.
* `parse_text_of_config` — so what is written of a configuration, in whole or in part, is read back.
-/

namespace MessageLint.Config

open Json (Cursor Reader ObjectText MemberText Row IsBlank IsText ListText StringText)
open Json.Reader (Takes)

/-! ## Values of fields -/

/-- What a field can hold. -/
inductive Value where
  | strings (ss : List String)
  | string (s : String)
  | flag (b : Bool)

namespace Value

/-- A value as JSON. -/
def toJson : Value → Json
  | strings ss => Config.strings ss
  | string s => .string s
  | flag b => .bool b

/-- The ways to write a value. -/
inductive Spelled : Value → List Char → Prop where
  | strings {ss : List String} {t : List Char} (h : ListText ss t) : Spelled (.strings ss) t
  | string {s : String} {t : List Char} (h : StringText s t) : Spelled (.string s) t
  | flag (b : Bool) : Spelled (.flag b) (Json.boolText b)

theorem spelled_pretty (v : Value) (depth : Nat) : v.Spelled (v.toJson.pretty depth).toList := by
  cases v with
  | strings ss => exact .strings (Json.listText_pretty depth ss)
  | string s =>
    rw [toJson, Json.pretty]
    exact .string (Json.stringText_renderString s)
  | flag b =>
    rw [toJson, Json.pretty]
    exact .flag b

theorem spelled_render (v : Value) : v.Spelled v.toJson.render.toList := by
  cases v with
  | strings ss => exact .strings (Json.listText_render ss)
  | string s =>
    rw [toJson, Json.render]
    exact .string (Json.stringText_renderString s)
  | flag b =>
    rw [toJson, Json.render]
    exact .flag b

end Value

namespace Field

/-- The value of a field. -/
def get (f : Field) (c : Config) : Value :=
  match f with
  | includes => .strings c.includes
  | ignores => .strings c.ignores
  | sourceRoot => .string c.sourceRoot
  | ignoreTestFiles => .flag c.ignoreTestFiles
  | ignoreTexts => .strings c.ignoreTexts
  | ignoreAttributes => .strings c.ignoreAttributes

theorem mem_all (f : Field) : f ∈ all := by cases f <;> decide

theorem nodup_all : all.Nodup := by decide

theorem ofKey?_key (f : Field) : ofKey? f.key = some f := by cases f <;> decide

theorem key_of_ofKey? {s : String} {f : Field} (h : ofKey? s = some f) : s = f.key := by
  have hFound := List.find?_some h
  exact (beq_iff_eq.mp hFound).symm

theorem key_injective {f g : Field} (h : f.key = g.key) : f = g := by
  have hKey := ofKey?_key f
  rw [h, ofKey?_key g] at hKey
  exact (Option.some.inj hKey).symm

end Field

/-- The configuration with the fields of `c` that are in `S`, and the defaults for the others. -/
def withFields (c : Config) (S : Finset Field) : Config :=
  let default : Config := {}
  { includes := if .includes ∈ S then c.includes else default.includes
    ignores := if .ignores ∈ S then c.ignores else default.ignores
    sourceRoot := if .sourceRoot ∈ S then c.sourceRoot else default.sourceRoot
    ignoreTestFiles := if .ignoreTestFiles ∈ S then c.ignoreTestFiles else default.ignoreTestFiles
    ignoreTexts := if .ignoreTexts ∈ S then c.ignoreTexts else default.ignoreTexts
    ignoreAttributes :=
      if .ignoreAttributes ∈ S then c.ignoreAttributes else default.ignoreAttributes }

theorem withFields_all (c : Config) : c.withFields Field.all.toFinset = c := by
  simp [withFields, Field.mem_all]

/-! ## Reading fields -/

/-- The draft in which the fields in `S` have been read, as they are in `c`. -/
def Draft.of (c : Config) (S : Finset Field) : Draft where
  includes := if .includes ∈ S then some c.includes else none
  ignores := if .ignores ∈ S then some c.ignores else none
  sourceRoot := if .sourceRoot ∈ S then some c.sourceRoot else none
  ignoreTestFiles := if .ignoreTestFiles ∈ S then some c.ignoreTestFiles else none
  ignoreTexts := if .ignoreTexts ∈ S then some c.ignoreTexts else none
  ignoreAttributes := if .ignoreAttributes ∈ S then some c.ignoreAttributes else none

theorem draft_of_empty (c : Config) : Draft.of c ∅ = {} := by simp [Draft.of]

theorem finish_of (c : Config) (S : Finset Field) : (Draft.of c S).finish = c.withFields S := by
  simp only [Draft.of, Draft.finish, withFields]
  congr <;> split <;> rfl

theorem isSet_of (c : Config) (S : Finset Field) (f : Field) :
    f.isSet (Draft.of c S) = decide (f ∈ S) := by
  cases f <;> simp only [Field.isSet, Draft.of] <;> split <;> simp [*]

/-- The reader for the type of the value takes it off the text. -/
def Value.ReadFrom : Value → List Char → Prop
  | strings ss, t => Takes (Reader.list Reader.string) t ss
  | string s, t => Takes Reader.string t s
  | flag x, t => Takes Reader.bool t x

theorem readFrom_of_spelled {v : Value} {b t : List Char} (hb : IsBlank b) (h : v.Spelled t) :
    v.ReadFrom (b ++ t) := by
  cases h with
  | strings h => exact Reader.takes_list hb h
  | string h => exact Reader.takes_string hb h
  | flag x => exact Reader.takes_bool hb x

/-- A field that is read next joins those that have been read. -/
theorem takes_field {c : Config} (S : Finset Field) {f : Field} {b t : List Char} (hb : IsBlank b)
    (h : (f.get c).Spelled t) :
    Takes (f.read (Draft.of c S)) (b ++ t) (Draft.of c (insert f S)) := by
  have hTakes := readFrom_of_spelled hb h
  intro k rest hk
  -- each field is read by the reader of its type, and nothing else is touched
  cases f
  all_goals
    obtain ⟨k', hRead, hRest⟩ := hTakes k rest hk
    refine ⟨k', ?_, hRest⟩
    simp [Field.read, Field.fill, hRead, Draft.of, bind, StateT.bind, Except.bind]
    rfl

/-! ## The members of an object -/

/-- The members of an object give the fields in `S` as they are in `c`, each of them once and in any
order. Other keys may stand anywhere among them, with values of any kind. -/
structure Holds (c : Config) (S : Finset Field) (members : List (String × List Char)) : Prop where
  once : ∀ f : Field, (members.map Prod.fst).count f.key = if f ∈ S then 1 else 0
  known : ∀ m ∈ members, ∀ f : Field, m.1 = f.key → (f.get c).Spelled m.2
  unknown : ∀ m ∈ members, (∀ f : Field, m.1 ≠ f.key) → IsText .value m.2

theorem Holds.eq_empty {c : Config} {S : Finset Field} (h : Holds c S []) : S = ∅ := by
  refine Finset.eq_empty_of_forall_notMem fun f hf => ?_
  have hOnce := h.once f
  rw [if_pos hf] at hOnce
  cases hOnce

/-- The rest of the members gives the fields but the first, if that is a field. -/
theorem Holds.tail_of_known {c : Config} {S : Finset Field} {f : Field} {v : List Char}
    {members : List (String × List Char)} (h : Holds c S ((f.key, v) :: members)) :
    f ∈ S ∧ Holds c (S.erase f) members := by
  have hOnce := h.once
  simp only [List.map_cons, List.count_cons, beq_iff_eq] at hOnce
  -- the key has been counted once already, so there is room for no second one
  have hMem : f ∈ S := by
    by_contra hNot
    have hCount := hOnce f
    rw [if_neg hNot, if_pos rfl] at hCount
    omega
  refine ⟨hMem, ?_, fun m hm => h.known m (List.mem_cons_of_mem _ hm),
    fun m hm => h.unknown m (List.mem_cons_of_mem _ hm)⟩
  intro g
  have hCount := hOnce g
  by_cases hg : f = g
  · subst hg
    rw [if_pos hMem, if_pos rfl] at hCount
    rw [if_neg (Finset.notMem_erase f S)]
    omega
  · rw [if_neg fun hKey => hg (Field.key_injective hKey)] at hCount
    simpa [Finset.mem_erase, Ne.symm hg] using hCount

theorem Holds.tail_of_unknown {c : Config} {S : Finset Field} {key : String} {v : List Char}
    {members : List (String × List Char)} (h : Holds c S ((key, v) :: members))
    (hKey : ∀ f : Field, key ≠ f.key) : Holds c S members := by
  refine ⟨fun f => ?_, fun m hm => h.known m (List.mem_cons_of_mem _ hm),
    fun m hm => h.unknown m (List.mem_cons_of_mem _ hm)⟩
  have hOnce := h.once f
  rwa [List.map_cons, List.count_cons_of_ne (hKey f)] at hOnce

theorem ends_of_row {members : List (String × List Char)} {ts rest : List Char}
    (h : Row MemberText '\x7d' false members ts) : Reader.Ends (ts ++ rest) := by
  cases h with
  | close hb =>
    rw [List.append_assoc]
    exact Reader.ends_of_blank hb (by decide)
  | item hs =>
    rw [List.append_assoc, List.append_assoc]
    exact Reader.ends_of_lead hs

/-- Reading the rest of an object adds its fields to those that have been read. -/
theorem readMembers_row {c : Config} {first : Bool} {members : List (String × List Char)}
    {ts : List Char} (h : Row MemberText '\x7d' first members ts) :
    ∀ (S T : Finset Field), Holds c S members → Disjoint S T →
    ∀ (fuel : Nat) (k : Cursor) (rest : List Char), ts.length ≤ fuel → k.rest = ts ++ rest →
      ∃ k', readMembers fuel first (Draft.of c T) k = .ok (Draft.of c (T ∪ S), k') ∧
        k'.rest = rest := by
  induction h with
  | @close first b hb =>
    intro S T hHolds _ fuel k rest hFuel hk
    obtain rfl := hHolds.eq_empty
    obtain ⟨fuel, rfl⟩ : ∃ n, fuel = n + 1 := ⟨fuel - 1, by simp at hFuel; omega⟩
    rw [List.append_assoc] at hk
    obtain ⟨k₁, hKey, hk₁⟩ := Reader.key?_close first hb hk
    obtain ⟨k₂, hEnd, hk₂⟩ := Reader.passes_objectEnd k₁ rest hk₁
    refine ⟨k₂, ?_, hk₂⟩
    rw [Finset.union_empty]
    simp [readMembers, hKey, hEnd, bind, Except.bind, pure, Except.pure]
  | @item first m members s t ts hs hMember hRow ih =>
    intro S T hHolds hDisjoint fuel k rest hFuel hk
    cases hMember with | @member key keyText b b' v hKeyText hb hb' => ?_
    simp only [List.length_append, List.length_cons] at hFuel
    obtain ⟨fuel, rfl⟩ : ∃ n, fuel = n + 1 := ⟨fuel - 1, by omega⟩
    -- the key and the colon come before the value, and the other members after it
    obtain ⟨k₁, hKey, hk₁⟩ := Reader.takes_key hs hKeyText k
      ((b ++ [':']) ++ ((b' ++ v) ++ (ts ++ rest))) (by simpa using hk)
    obtain ⟨k₂, hColon, hk₂⟩ := Reader.passes_colon hb k₁ ((b' ++ v) ++ (ts ++ rest)) hk₁
    cases hField : Field.ofKey? key with
    | none =>
      -- nobody knows the key: the value is skipped, and the fields stay as they are
      have hUnknown : ∀ f : Field, key ≠ f.key := by
        rintro f rfl
        rw [Field.ofKey?_key] at hField
        cases hField
      have hValue := hHolds.unknown (key, v) List.mem_cons_self hUnknown
      rw [List.append_assoc] at hk₂
      obtain ⟨k₃, hSkip, hk₃⟩ := Reader.skipValue_of hValue hb' (ends_of_row hRow) hk₂
      obtain ⟨k₄, hRead, hk₄⟩ := ih S T (hHolds.tail_of_unknown hUnknown) hDisjoint fuel k₃ rest
        (by omega) hk₃
      refine ⟨k₄, ?_, hk₄⟩
      simp [readMembers, hKey, hField, hColon, hSkip, hRead, bind, Except.bind]
    | some f =>
      obtain rfl := Field.key_of_ofKey? hField
      obtain ⟨hMem, hTail⟩ := hHolds.tail_of_known
      have hNew : f ∉ T := Finset.disjoint_left.mp hDisjoint hMem
      have hValue := hHolds.known (f.key, v) List.mem_cons_self f rfl
      obtain ⟨k₃, hTake, hk₃⟩ := takes_field T hb' hValue k₂ (ts ++ rest) hk₂
      -- the field moves from those that are still to come to those that have been read
      have hApart : Disjoint (S.erase f) (insert f T) := Finset.disjoint_insert_right.mpr
        ⟨Finset.notMem_erase f S, hDisjoint.mono_left (Finset.erase_subset f S)⟩
      have hUnion : insert f T ∪ S.erase f = T ∪ S := by
        rw [Finset.insert_union_comm, Finset.insert_erase hMem]
      obtain ⟨k₄, hRead, hk₄⟩ := ih (S.erase f) (insert f T) hTail hApart fuel k₃ rest
        (by omega) hk₃
      rw [hUnion] at hRead
      refine ⟨k₄, ?_, hk₄⟩
      simp [readMembers, hKey, hField, hColon, isSet_of, hNew, hTake, hRead, bind, Except.bind]

theorem parse_of_holds {c : Config} {S : Finset Field} {members : List (String × List Char)}
    {text : String} (hText : ObjectText members text.toList) (hHolds : Holds c S members) :
    parse text = .ok (c.withFields S) := by
  generalize hChars : text.toList = cs at hText
  cases hText with | @braced b b' ts hb hb' hRow => ?_
  have hOpen : (Cursor.ofString text).skipBlanks.rest = '\x7b' :: (ts ++ b') :=
    Cursor.rest_skipBlanks (by simp [Cursor.ofString, hChars]) hb (by decide)
  obtain ⟨k, hRead, hk⟩ := readMembers_row hRow S ∅ hHolds (Finset.disjoint_empty_right S)
    ((ts ++ b').length + 1) (Cursor.ofString text).skipBlanks.next b' (by simp; omega)
    (Cursor.rest_next hOpen)
  rw [draft_of_empty, Finset.empty_union] at hRead
  have hEnd := Reader.endOfText_blank (hk ▸ hb')
  simp only [parse, Reader.all, reader, hOpen, hRead, finish_of, hEnd, bind, Except.bind, pure,
    Except.pure]

/-! ## What is written of a configuration -/

/-- Some fields of a configuration as the members of an object, in the order given. -/
def membersOf (c : Config) (fields : List Field) : List (String × Json) :=
  fields.map fun f => (f.key, (f.get c).toJson)

theorem toJson_eq (c : Config) : c.toJson = .object (c.membersOf Field.all) := rfl

theorem holds_membersOf (c : Config) {fields : List Field} (hFields : fields.Nodup)
    (text : Json → List Char) (hText : ∀ v : Value, v.Spelled (text v.toJson)) :
    Holds c fields.toFinset ((c.membersOf fields).map fun m => (m.1, text m.2)) := by
  have hKeys : ((c.membersOf fields).map fun m => (m.1, text m.2)).map Prod.fst =
      fields.map Field.key := by
    simp [membersOf, Function.comp_def]
  have hMember : ∀ m ∈ (c.membersOf fields).map fun m => (m.1, text m.2),
      ∃ g : Field, m = (g.key, text (g.get c).toJson) := by
    intro m hm
    simp only [membersOf, List.map_map, List.mem_map] at hm
    obtain ⟨g, -, rfl⟩ := hm
    exact ⟨g, rfl⟩
  refine ⟨fun f => ?_, fun m hm f hKey => ?_, fun m hm hKey => ?_⟩
  · -- different fields have different keys, so each key occurs as often as its field
    rw [hKeys, List.count_map_of_injective _ _ fun _ _ h => Field.key_injective h,
      hFields.count]
    simp
  · obtain ⟨g, rfl⟩ := hMember m hm
    obtain rfl : g = f := Field.key_injective hKey
    exact hText (g.get c)
  · obtain ⟨g, rfl⟩ := hMember m hm
    exact absurd rfl (hKey g)

theorem parse_pretty (c : Config) {fields : List Field} (hFields : fields.Nodup) (depth : Nat) :
    parse ((Json.object (c.membersOf fields)).pretty depth) =
      .ok (c.withFields fields.toFinset) :=
  parse_of_holds (Json.objectText_pretty depth (c.membersOf fields))
    (holds_membersOf c hFields (fun j => (j.pretty (depth + 1)).toList)
      fun v => v.spelled_pretty (depth + 1))

theorem parse_compact (c : Config) {fields : List Field} (hFields : fields.Nodup) :
    parse (Json.object (c.membersOf fields)).render = .ok (c.withFields fields.toFinset) :=
  parse_of_holds (Json.objectText_render (c.membersOf fields))
    (holds_membersOf c hFields (fun j => j.render.toList) Value.spelled_render)

/-- The values that clients are shown are written as the configuration itself. -/
theorem toJson_values (c : Config) : (Service.ConfigValues.ofConfig c).toJson = c.toJson := rfl

theorem exists_answer {w : Files.Workspace} {root : Files.Path} {loaded : Loaded}
    (h : load w root = .ok loaded) :
    ∃ answer, Service.getConfig w root = .ok answer ∧
      answer.json.get? "config" = some (Service.ConfigValues.ofConfig loaded.config).toJson := by
  refine ⟨{ json := (Service.ConfigResult.of loaded).toJson }, ?_, rfl⟩
  unfold Service.getConfig
  rw [h]

/-- Whatever text gives some of the fields of a configuration, in any order, with any blanks and
escapes and among any other keys, is read as those fields and the defaults for the others. So what
is written of a configuration is read back, be it some of the fields in any order, the whole, or
what the service tells of it. -/
theorem parse_text_of_config (c : Config) :
    (∀ (S : Finset Field) (members : List (String × List Char)) (text : String),
      ObjectText members text.toList → Holds c S members → parse text = .ok (c.withFields S)) ∧
    (∀ fields : List Field, fields.Nodup →
      parse (Json.object (c.membersOf fields)).render = .ok (c.withFields fields.toFinset) ∧
      ∀ depth, parse ((Json.object (c.membersOf fields)).pretty depth) =
        .ok (c.withFields fields.toFinset)) ∧
    parse c.render = .ok c ∧
    ∀ (w : Files.Workspace) (root : Files.Path) (fromFile : Bool),
      load w root = .ok ⟨c, fromFile⟩ →
      ∃ answer, Service.getConfig w root = .ok answer ∧
        answer.json.get? "config" = some (Service.ConfigValues.ofConfig c).toJson ∧
        parse (Service.ConfigValues.ofConfig c).toJson.render = .ok c ∧
        ∀ depth, parse ((Service.ConfigValues.ofConfig c).toJson.pretty depth) = .ok c := by
  have hWhole : ∀ depth, parse (c.toJson.pretty depth) = .ok c := by
    intro depth
    rw [toJson_eq, parse_pretty c Field.nodup_all depth, withFields_all]
  have hCompact : parse c.toJson.render = .ok c := by
    rw [toJson_eq, parse_compact c Field.nodup_all, withFields_all]
  refine ⟨fun S members text => parse_of_holds,
    fun fields hFields => ⟨parse_compact c hFields, parse_pretty c hFields⟩, hWhole 0, ?_⟩
  intro w root fromFile hLoad
  obtain ⟨answer, hAnswer, hConfig⟩ := exists_answer hLoad
  rw [toJson_values] at hConfig ⊢
  exact ⟨answer, hAnswer, hConfig, hCompact, hWhole⟩

/-- A text with a key that means nothing here, whose value holds a number beyond all bounds, and a
field whose key and value are written with escapes. -/
def partialText : String :=
  " \x7b\"x\": [1e999, \x7b\"y\":null\x7d],\n \"\\u0069ncludes\" : [\"\\ud83d\\uDE00\"]\x7d"

/-- The members that it holds. -/
def partialMembers : List (String × List Char) :=
  [("x", "[1e999, \x7b\"y\":null\x7d]".toList), ("includes", "[\"\\ud83d\\uDE00\"]".toList)]

theorem objectText_partialText : ObjectText partialMembers partialText.toList := by
  have hBlank : IsBlank [' '] := by decide
  have hLine : IsBlank ['\n', ' '] := by decide
  have hCode : Json.Hex4 ['0', '0', '6', '9'] 'i'.toNat :=
    .spelled (u := 0) (v := 0) (x := 6) (y := 9) (by decide) (by decide) (by decide) (by decide)
  have hKey : StringText "includes" "\"\\u0069ncludes\"".toList :=
    .quoted (.char (.code hCode) (Json.stringTail_escapeChar "ncludes".toList))
  have hFirst := MemberText.member (v := "[1e999, \x7b\"y\":null\x7d]".toList)
    (Json.stringText_renderString "x") Json.isBlank_nil hBlank
  have hSecond := MemberText.member (v := "[\"\\ud83d\\uDE00\"]".toList) hKey hBlank hBlank
  exact .braced hBlank Json.isBlank_nil (.item (.first Json.isBlank_nil) hFirst
    (.item (.next Json.isBlank_nil hLine) hSecond (.close Json.isBlank_nil)))

theorem isText_unknownValue : IsText .value "[1e999, \x7b\"y\":null\x7d]".toList := by
  have hBlank : IsBlank [' '] := by decide
  have hWhole : Json.IsWhole ['1'] := by simp [Json.IsWhole, Json.IsDigits]
  have hPower : Json.IsExponent ['e', '9', '9', '9'] :=
    .power (.inl rfl) (show [] ∈ [[], ['+'], ['-']] by decide) (by simp [Json.IsDigits])
  have hNumber : Json.IsNumber ['1', 'e', '9', '9', '9'] :=
    .number (show [] ∈ [[], ['-']] by decide) hWhole .none hPower
  have hLabel : Json.Label .object ['"', 'y', '"', ':'] :=
    .object (.char (.plain (by decide) (by decide) (by decide)) .close) Json.isBlank_nil
  have hMembers : IsText (.inside .object true) ['"', 'y', '"', ':', 'n', 'u', 'l', 'l', '\x7d'] :=
    .item (.first Json.isBlank_nil) hLabel Json.isBlank_nil (.word (w := "null") (by decide))
      (.close Json.isBlank_nil)
  have hItems : IsText (.inside .list true) "1e999, \x7b\"y\":null\x7d]".toList :=
    .item (.first Json.isBlank_nil) .list Json.isBlank_nil (.number hNumber)
      (.item (.next Json.isBlank_nil hBlank) .list Json.isBlank_nil (.bracket hMembers)
        (.close Json.isBlank_nil))
  exact .bracket hItems

theorem listText_smile : ListText ["😀"] "[\"\\ud83d\\uDE00\"]".toList := by
  have hHigh : Json.Hex4 ['d', '8', '3', 'd'] (0xD800 + 0x3D) :=
    .spelled (u := 13) (v := 8) (x := 3) (y := 13) (by decide) (by decide) (by decide) (by decide)
  have hLow : Json.Hex4 ['D', 'E', '0', '0'] (0xDC00 + 0x200) :=
    .spelled (u := 13) (v := 14) (x := 0) (y := 0) (by decide) (by decide) (by decide) (by decide)
  have hString : StringText "😀" "\"\\ud83d\\uDE00\"".toList :=
    .quoted (.char (.pair hHigh hLow (by decide) (by decide) (by decide)) .close)
  exact .bracketed (.item (.first Json.isBlank_nil) hString (.close Json.isBlank_nil))

theorem holds_partialMembers : Holds { includes := ["😀"] } {.includes} partialMembers := by
  have hMembers : ∀ m ∈ partialMembers, m = ("x", "[1e999, \x7b\"y\":null\x7d]".toList) ∨
      m = ("includes", "[\"\\ud83d\\uDE00\"]".toList) := by
    simp [partialMembers]
  refine ⟨fun f => by cases f <;> decide, fun m hm f hKey => ?_, fun m hm hKey => ?_⟩
  · obtain rfl | rfl := hMembers m hm
    · cases f <;> exact absurd hKey (by decide)
    · obtain rfl : Field.includes = f := Field.key_injective hKey
      exact .strings listText_smile
  · obtain rfl | rfl := hMembers m hm
    · exact isText_unknownValue
    · exact absurd rfl (hKey .includes)

/-- A project that is configured by that text. -/
def partialProject : Files.Workspace := ⟨.directory [(fileName, .file partialText.toUTF8)], []⟩

/-- That text is read as what it says of one field, and what is told of it is read back. -/
theorem partialText_parsed :
    ObjectText partialMembers partialText.toList ∧
    Holds { includes := ["😀"] } {.includes} partialMembers ∧
    parse partialText = .ok (withFields { includes := ["😀"] } {.includes}) ∧
    parse (Json.object (membersOf { includes := ["😀"] } [.sourceRoot, .includes])).render =
      .ok { includes := ["😀"] } ∧
    ∃ answer, Service.getConfig partialProject "." = .ok answer ∧
      answer.json.get? "config" =
        some (Service.ConfigValues.ofConfig { includes := ["😀"] }).toJson ∧
      parse ((Service.ConfigValues.ofConfig { includes := ["😀"] }).toJson.pretty 1) =
        .ok { includes := ["😀"] } := by
  have hLoad : load partialProject "." = .ok ⟨{ includes := ["😀"] }, true⟩ := by decide +kernel
  obtain ⟨hText, hWritten, -, hTold⟩ := parse_text_of_config { includes := ["😀"] }
  obtain ⟨answer, hAnswer, hConfig, -, hPretty⟩ := hTold partialProject "." true hLoad
  exact ⟨objectText_partialText, holds_partialMembers,
    hText _ _ _ objectText_partialText holds_partialMembers,
    (hWritten [.sourceRoot, .includes] (by decide)).1, answer, hAnswer, hConfig, hPretty 1⟩

end MessageLint.Config
