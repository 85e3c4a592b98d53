import ImportMacros.Config.Merge
import ImportMacros.Proofs.Documents
import ImportMacros.Proofs.Persistence

/-!
# ImportMacros.Proofs.Merge

The configuration of a macro, by what the options and the nearest configuration file have for its
name (`forMacro_settled`). The options only have a section if it is an object or null; a file has
one of any kind, unless the search for it fails. There are two ways to fail (`Settled.lookup`,
`Settled.mismatch`). In all other cases the fields of both are merged: the keys of the options in
front, the values of the file on top (`Settled.merged`).

That the merge has no key twice rests on what it is made of. Configurations that are read from
files are proper, and so is all that an explorer remembers, whatever happens to the files
(`Explorer.Watch.proper_after`).
-/

namespace ImportMacros
namespace Config

/-! ## What is found -/

section Found

variable {fs : FileSystem}

theorem Format.proper_read? {format : Format} {text : String} {value : Value}
    (h : format.read? text = some value) : value.Proper := by
  cases format with
  | package => exact Json.proper_read? h
  | json => exact Json.proper_read? h
  | yaml => exact Yaml.proper_read? h
  | either =>
    rcases Option.or_eq_some_iff.1 h with h | ⟨-, h⟩
    · exact Json5.proper_read? h
    · exact Yaml.proper_read? h
  | script => cases h

theorem Format.proper_pick {format : Format} {value config : Value} (hvalue : value.Proper)
    (h : format.pick value = some config) : config.Proper := by
  unfold Format.pick at h
  split at h
  · exact hvalue.field? h
  · cases h
    exact hvalue

theorem Place.proper_load {place : Place} {path : Path} {config : Value}
    (h : place.load fs path = .ok (some config)) : config.Proper := by
  unfold Place.load at h
  split at h
  · cases h
  · split at h
    · cases h
    · split at h
      · cases h
      · split at h
        · cases h
        · rename_i value hvalue
          exact Format.proper_pick (Format.proper_read? hvalue) (Except.ok.inj h)

theorem proper_firstIn {dir : Path} {ps : List Place} {loaded : Loaded}
    (h : firstIn fs dir ps = .ok (some loaded)) : loaded.config.Proper := by
  induction ps with
  | nil => cases h
  | cons place ps ih =>
    rw [firstIn] at h
    split at h
    · cases h
    · rename_i config hlook
      cases h
      rw [Place.lookIn] at hlook
      split at hlook
      · exact Place.proper_load hlook
      · cases hlook
    · exact ih h

end Found

namespace Explorer

variable {fs : FileSystem} {explorer : Explorer}

def Proper (explorer : Explorer) : Prop :=
  ∀ dir loaded, explorer.known? dir = some (some loaded) → loaded.config.Proper

theorem proper_empty : Proper {} := by
  intro dir loaded h
  cases h

theorem Proper.outcome (h : explorer.Proper) {dirs : List Path} {loaded : Loaded}
    (houtcome : explorer.outcome fs dirs = .ok (some loaded)) : loaded.config.Proper := by
  induction dirs with
  | nil => cases houtcome
  | cons dir rest ih =>
    cases hknown : explorer.known? dir with
    | some found =>
      rw [outcome_of_known hknown] at houtcome
      cases houtcome
      exact h dir loaded hknown
    | none =>
      rw [outcome_of_not_known hknown] at houtcome
      rcases hown : inDirectory fs dir with error | _ | own <;> rw [hown] at houtcome
      · cases houtcome
      · exact ih houtcome
      · cases houtcome
        exact proper_firstIn hown

theorem Proper.of_search (h : explorer.Proper) {dir : Path} {loaded : Loaded}
    (hsearch : (explorer.search fs dir).1 = .ok (some loaded)) : loaded.config.Proper := by
  rw [search_fst] at hsearch
  exact h.outcome hsearch

theorem Proper.search (h : explorer.Proper) (fs : FileSystem) (dir : Path) :
    (explorer.search fs dir).2.1.Proper := by
  rw [Explorer.search]
  split
  · exact h
  · rename_i w hwalk
    intro d loaded hknown
    rcases known?_remember hknown with ⟨-, -, -, hfound⟩ | hknown
    · have houtcome : explorer.outcome fs dir.ancestors = .ok (some loaded) := by
        rw [Explorer.outcome, hwalk, ← hfound]
        rfl
      exact h.outcome houtcome
    · exact h d loaded hknown

/-- Whatever happens, an explorer only remembers proper configurations. -/
theorem Watch.proper_after {w : Watch} (h : w.explorer.Proper) (moves : List Move) :
    (w.after moves).explorer.Proper := by
  induction moves generalizing w with
  | nil => exact h
  | cons move rest ih =>
    refine ih ?_
    cases move with
    | change fs => exact h
    | search dir => exact h.search w.fs dir

end Explorer

/-! ## Sections -/

/-- What the options have for a name: an object or null. -/
def optionsSection (options : Fields) (name : String) : Option Value :=
  match options.get? name with
  | some .null => some .null
  | some (.object fields) => some (.object fields)
  | _ => none

/-- What a search has found for a name, and in which file. -/
def fileSection (found : Except Error (Option Loaded)) (name : String) : Option (Path × Value) :=
  match found with
  | .ok (some ⟨path, .object fields⟩) =>
    (Fields.get? fields name).map fun value => (path, value)
  | _ => none

def fieldsOf : Option Value → Fields
  | some (.object fields) => fields
  | _ => []

def IsOther (value : Value) : Prop := value ≠ .null ∧ ∀ fields, value ≠ .object fields

theorem ofOptions_eq (options : Fields) (name : String) :
    ofOptions options name = optionsSection options name := by
  unfold ofOptions optionsSection
  rcases options.get? name with _ | _ | _ | _ | _ | _ | _ <;> rfl

theorem ofFile_eq (loaded : Option Loaded) (name : String) :
    ofFile loaded name = fileSection (.ok loaded) name := by
  rcases loaded with _ | ⟨path, _ | _ | _ | _ | _ | _⟩ <;> rfl

theorem isOther_iff (value : Value) : IsOther value ↔ value.isMergeable = false := by
  cases value <;> simp [IsOther, Value.isMergeable]

theorem getD_fields_eq (value : Option Value) :
    (value.map Value.fields).getD [] = fieldsOf value := by
  rcases value with _ | _ | _ | _ | _ | _ | _ <;> rfl

theorem proper_fieldsOf {value : Option Value} (h : ∀ v, value = some v → v.Proper) :
    (fieldsOf value).Proper := by
  unfold fieldsOf
  split
  · exact Value.proper_object_iff.1 (h _ rfl)
  · exact Fields.proper_nil

theorem proper_optionsSection {options : Fields} (h : options.Proper) {name : String}
    {value : Value} (hvalue : optionsSection options name = some value) : value.Proper := by
  unfold optionsSection at hvalue
  split at hvalue
  · cases hvalue
    exact .null
  · rename_i fields hget
    cases hvalue
    exact h.get? hget
  · cases hvalue

theorem proper_fileSection {loaded : Option Loaded}
    (h : ∀ l, loaded = some l → l.config.Proper) {name : String} {path : Path} {value : Value}
    (hvalue : fileSection (.ok loaded) name = some (path, value)) : value.Proper := by
  rcases loaded with _ | l
  · cases hvalue
  · rw [← ofFile_eq] at hvalue
    obtain ⟨v, hfield, heq⟩ := Option.map_eq_some_iff.1 hvalue
    cases heq
    exact (h l rfl).field? hfield

/-! ## The configuration -/

/-- What comes of a section of the options and one of a file, or of a search that fails. -/
structure Settled (found : Except Error (Option Loaded)) (own : Option Value)
    (file : Option (Path × Value)) (name : String)
    (outcome : Except Failure (Option Fields)) : Prop where
  /-- The search fails, and the options have nothing. -/
  lookup : ∀ error, outcome = .error (.search error) ↔ found = .error error ∧ own = none
  /-- The file has something that cannot be merged, and the options have something too. -/
  mismatch : ∀ path called type, outcome = .error (.mismatch path called type) ↔
    own ≠ none ∧ ∃ value, file = some (path, value) ∧ IsOther value ∧
      called = name ∧ type = value.typeName
  merged : (∀ error, found = .error error → own ≠ none) →
    (∀ path value, file = some (path, value) → IsOther value → own = none) →
    ∃ fields, outcome = .ok (some fields) ∧ fields.keys.Nodup ∧
      fields.keys = (fieldsOf own).keys ++
        (fieldsOf (file.map Prod.snd)).keys.filter (· ∉ (fieldsOf own).keys) ∧
      ∀ k, fields.get? k = ((fieldsOf (file.map Prod.snd)).get? k).or ((fieldsOf own).get? k)

theorem merge_laws {own file : Option Value} (hown : (fieldsOf own).Proper)
    (hfile : (fieldsOf file).Proper) :
    (merge own file).keys.Nodup ∧
      (merge own file).keys =
        (fieldsOf own).keys ++ (fieldsOf file).keys.filter (· ∉ (fieldsOf own).keys) ∧
      ∀ k, (merge own file).get? k = ((fieldsOf file).get? k).or ((fieldsOf own).get? k) := by
  have hmerge : merge own file = Fields.merge (Fields.merge [] (fieldsOf own)) (fieldsOf file) := by
    rw [merge, getD_fields_eq, getD_fields_eq]
  have hkeys : (Fields.merge [] (fieldsOf own)).keys = (fieldsOf own).keys :=
    Fields.keys_merge_nil hown.nodup
  rw [hmerge]
  refine ⟨Fields.nodup_keys_merge (hkeys ▸ hown.nodup) hfile.nodup, ?_, fun k => ?_⟩
  · rw [Fields.keys_merge _ hfile.nodup, hkeys]
  · rw [Fields.get?_merge _ hfile.nodup, Fields.get?_merge [] hown.nodup]
    exact congrArg _ (Option.or_none)

def settle (found : Except Error (Option Loaded)) (own : Option Value) (name : String) :
    Except Failure Fields :=
  match found with
  | .error error => if own.isSome then .ok (merge own none) else .error (.search error)
  | .ok loaded => (combine name (fileSection (.ok loaded) name) own).1

theorem forMacro_fst (fs : FileSystem) (explorer : Explorer) (options : Fields) (name : String)
    (dir : Path) (source : String) :
    (forMacro fs explorer options (some name) dir source).1 =
      (settle (explorer.search fs dir).1 (optionsSection options name) name).map some := by
  have hforName : (forName fs explorer options name dir source).1 =
      settle (explorer.search fs dir).1 (optionsSection options name) name := by
    rw [forName, ofOptions_eq]
    rcases explorer.search fs dir with ⟨error | loaded, explorer', told⟩
    · simp only [settle]
      split <;> rfl
    · simp only [settle, ofFile_eq]
  rw [← hforName, forMacro]
  rcases forName fs explorer options name dir source with ⟨failure | fields, explorer', told⟩ <;>
    rfl

theorem settled_of_merge {found : Except Error (Option Loaded)} {own : Option Value}
    {file : Option (Path × Value)} (name : String)
    (hown : ∀ value, own = some value → value.Proper)
    (hfile : ∀ path value, file = some (path, value) → value.Proper)
    (hlookup : ∀ error, found = .error error → own ≠ none)
    (hmismatch : ∀ path value, file = some (path, value) → IsOther value → own = none) :
    Settled found own file name (.ok (some (merge own (file.map Prod.snd)))) := by
  refine ⟨fun error => ?_, fun path called type => ?_, fun _ _ => ⟨_, rfl, merge_laws ?_ ?_⟩⟩
  · exact ⟨nofun, fun ⟨herror, hnone⟩ => absurd hnone (hlookup error herror)⟩
  · refine ⟨nofun, ?_⟩
    rintro ⟨hsome, value, hvalue, hother, -⟩
    exact absurd (hmismatch path value hvalue hother) hsome
  · exact proper_fieldsOf hown
  · refine proper_fieldsOf fun value hvalue => ?_
    obtain ⟨⟨path, v⟩, hv, rfl⟩ := Option.map_eq_some_iff.1 hvalue
    exact hfile path v hv

theorem settled_of_error (error : Error) {own : Option Value}
    (hown : ∀ value, own = some value → value.Proper) (name : String) :
    Settled (.error error) own (fileSection (.error error) name) name
      ((settle (.error error) own name).map some) := by
  cases own with
  | none =>
    refine ⟨fun error' => ?_, fun path called type => ?_, fun h _ => absurd rfl (h error rfl)⟩
    · constructor
      · intro h
        cases h
        exact ⟨rfl, rfl⟩
      · rintro ⟨herror, -⟩
        cases herror
        rfl
    · exact ⟨nofun, fun h => absurd rfl h.1⟩
  | some value => exact settled_of_merge name hown nofun nofun nofun

theorem settled_of_ok (loaded : Option Loaded) {own : Option Value}
    (hown : ∀ value, own = some value → value.Proper)
    (hloaded : ∀ l, loaded = some l → l.config.Proper) (name : String) :
    Settled (.ok loaded) own (fileSection (.ok loaded) name) name
      ((settle (.ok loaded) own name).map some) := by
  have hfile : ∀ path value, fileSection (.ok loaded) name = some (path, value) → value.Proper :=
    fun _ _ => proper_fileSection hloaded
  rw [settle]
  generalize fileSection (.ok loaded) name = file at hfile
  rcases file with _ | ⟨path, value⟩
  · exact settled_of_merge name hown nofun nofun nofun
  · have hother := isOther_iff value
    cases hmergeable : value.isMergeable with
    | true =>
      rw [combine, if_pos hmergeable]
      refine settled_of_merge name hown hfile nofun fun _ v hv h => ?_
      cases hv
      rw [hother, hmergeable] at h
      cases h
    | false =>
      rw [combine, if_neg (by simp [hmergeable])]
      have hisOther := hother.2 hmergeable
      cases own with
      | none =>
        have hnothing : [] = merge none (some value) := by
          cases value with
          | object fields => exact absurd rfl (hisOther.2 fields)
          | _ => rfl
        rw [hnothing]
        exact settled_of_merge name hown hfile nofun fun _ _ _ _ => rfl
      | some ownValue =>
        refine ⟨fun error => ⟨nofun, nofun⟩, fun path' called type => ?_, fun _ h => ?_⟩
        · constructor
          · intro h
            cases h
            exact ⟨nofun, value, rfl, hisOther, rfl, rfl⟩
          · rintro ⟨-, v, hv, -, rfl, rfl⟩
            cases hv
            rfl
        · exact absurd (h path value rfl hisOther) nofun

/-- The configuration of a macro, told by what the options and the nearest file have for its name.
A macro without a name has none, and nothing is looked up for it. -/
theorem forMacro_settled (fs : FileSystem) {explorer : Explorer} (hexplorer : explorer.Proper)
    {options : Fields} (hoptions : options.Proper) (dir : Path) (source : String) :
    (∀ name,
      let found := (explorer.search fs dir).1
      Settled found (optionsSection options name) (fileSection found name) name
        (forMacro fs explorer options (some name) dir source).1) ∧
      forMacro fs explorer options none dir source = (.ok none, explorer, []) := by
  refine ⟨fun name => ?_, rfl⟩
  have hown : ∀ value, optionsSection options name = some value → value.Proper := fun _ =>
    proper_optionsSection hoptions
  rw [forMacro_fst]
  cases hfound : (explorer.search fs dir).1 with
  | error error => exact settled_of_error error hown name
  | ok loaded =>
    refine settled_of_ok loaded hown (fun l hl => ?_) name
    exact hexplorer.of_search (hl ▸ hfound)

def overriding : Memory :=
  ({} : Memory).write (Path.ofText "/.babel-plugin-macrosrc.json")
    "\x7b\"m\":\x7b\"b\":true,\"a\":null\x7d\x7d"

/-- Options that set two keys for the same macro, one of them also set by the file. -/
def overridden : Fields := [("m", .object [("a", .bool false), ("c", .null)])]

theorem forMacro_overriding :
    Explorer.Proper {} ∧ overridden.Proper ∧
      ∃ fields, (forMacro overriding.fileSystem {} overridden (some "m") Path.root "./m.macro").1 =
          .ok (some fields) ∧
        fields.keys = ["a", "c", "b"] ∧ fields.get? "a" = some .null := by
  have hoptions : overridden.Proper := by
    refine ⟨by decide, ?_⟩
    simp only [overridden, List.forall_mem_singleton]
    refine .object (by decide) ?_
    simp only [List.forall_mem_cons, List.not_mem_nil, false_imp_iff, implies_true, and_true]
    exact ⟨.bool false, .null⟩
  have hfound : (Explorer.search overriding.fileSystem {} Path.root).1 =
      .ok (some ⟨Path.ofText "/.babel-plugin-macrosrc.json",
        .object [("m", .object [("b", .bool true), ("a", .null)])]⟩) := by
    rfl
  have hsettled := (forMacro_settled overriding.fileSystem Explorer.proper_empty hoptions Path.root
    "./m.macro").1 "m"
  rw [hfound] at hsettled
  have hmergeable : ∀ path value, some (Path.ofText "/.babel-plugin-macrosrc.json",
      Value.object [("b", .bool true), ("a", .null)]) = some (path, value) → ¬IsOther value := by
    rintro path value h hother
    cases h
    exact hother.2 _ rfl
  obtain ⟨fields, hok, -, hkeys, hget⟩ := hsettled.merged nofun fun path value h hother =>
    absurd hother (hmergeable path value h)
  exact ⟨Explorer.proper_empty, hoptions, fields, hok, hkeys, hget "a"⟩

end Config
end ImportMacros
