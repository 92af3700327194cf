/-
Where every setting that has been loaded comes from.

Settings come from five kinds of sources, and each has its rank: the defaults, the overlay of the profile,
the main file, the environment variables, and the settings laid over all of them in their order. What a
source needs to be heard at all is said of each on its own, without regard to how loading goes about it:
an overlay, for example, is heard if no file is named, a main file is found, and there is a file under the
path of that with the profile in it. That file lies beside the main file, unless the profile has a slash in
its name. The layers that loading works with are what the sources say, in the order of their ranks, so at
every path the source of the highest rank that sets it decides, and the settings are what stands there.

The main file is found at the first place of the search that has one. Places are compared as lists of
numbers: by directory, then by name, then by format and extension.
-/

import BotHost.Proofs.Json.Codec
import BotHost.Proofs.Settings.Extraction
import BotHost.Proofs.Text.Paths
import BotHost.Settings.Loader
import Mathlib

namespace BotHost

/-! ### The search for the main file -/

section Rows

variable {Row Entry : Type} {rows : List Row} {entries : Row → List Entry} {entry : Entry}
  {list : List Entry} {at? : List Nat → Option Entry} {inRow? : Row → List Nat → Option Entry}

/-- The entry at a place in a table of rows: its first number is that of the row. -/
def within (rows : List Row) (inRow? : Row → List Nat → Option Entry) : List Nat → Option Entry
  | [] => none
  | place :: rest => rows[place]?.bind fun row => inRow? row rest

/-- An entry without any rows around it. -/
def only (entry : Entry) : List Nat → Option Entry
  | [] => some entry
  | _ :: _ => none

/-- A list has its entries in the order of their places. -/
structure Indexes (at? : List Nat → Option Entry) (list : List Entry) : Prop where
  member : ∀ {place entry}, at? place = some entry → entry ∈ list
  first : ∀ {wanted : Entry → Bool} {entry}, list.find? wanted = some entry →
    ∃ place, at? place = some entry ∧
      ∀ earlier < place, ∀ other, at? earlier = some other → wanted other = false

theorem indexes_only (entry : Entry) : Indexes (only entry) [entry] where
  member := by
    intro place other there
    cases place <;> cases there
    exact List.mem_cons_self
  first := by
    intro wanted other found
    obtain rfl := List.mem_singleton.mp (List.mem_of_find?_eq_some found)
    exact ⟨[], rfl, fun earlier less => absurd less (List.not_lt_nil earlier)⟩

/-- The first entry that is looked for is in the first row with such an entry. -/
theorem exists_row_of_find?_flatMap {wanted : Entry → Bool}
    (found : (rows.flatMap entries).find? wanted = some entry) :
    ∃ (place : Nat) (row : Row), rows[place]? = some row ∧
      (entries row).find? wanted = some entry ∧
      ∀ earlier < place, ∀ other, rows[earlier]? = some other →
        ∀ entry ∈ entries other, wanted entry = false := by
  induction rows with
  | nil => cases found
  | cons row rows inductionHypothesis =>
    rw [List.flatMap_cons, List.find?_append] at found
    cases own : (entries row).find? wanted with
    | some first =>
      rw [own] at found
      exact ⟨0, row, rfl, own.trans found, nofun⟩
    | none =>
      rw [own, Option.none_or] at found
      obtain ⟨place, later, there, inside, before⟩ := inductionHypothesis found
      refine ⟨place + 1, later, there, inside, fun earlier less other at_ => ?_⟩
      cases earlier with
      | zero =>
        obtain rfl := Option.some.inj at_
        simpa using List.find?_eq_none.mp own
      | succ earlier => exact before earlier (Nat.lt_of_succ_lt_succ less) other at_

/-- Rows that are indexed each by themselves are indexed one behind the other. -/
theorem Indexes.within (each : ∀ row, Indexes (inRow? row) (entries row)) (rows : List Row) :
    Indexes (within rows inRow?) (rows.flatMap entries) where
  member := by
    intro place entry there
    cases place with
    | nil => cases there
    | cons place rest =>
      obtain ⟨row, inRows, inside⟩ := Option.bind_eq_some_iff.mp there
      exact List.mem_flatMap.mpr ⟨row, List.mem_of_getElem? inRows, (each row).member inside⟩
  first := by
    intro wanted entry found
    obtain ⟨place, row, inRows, inside, noRow⟩ := exists_row_of_find?_flatMap found
    obtain ⟨rest, there, before⟩ := (each row).first inside
    refine ⟨place :: rest, Option.bind_eq_some_iff.mpr ⟨row, inRows, there⟩, ?_⟩
    intro earlier less other at_
    cases earlier with
    | nil => cases at_
    | cons otherPlace otherRest =>
      obtain ⟨otherRow, inRows', there'⟩ := Option.bind_eq_some_iff.mp at_
      rcases List.cons_lt_cons_iff.mp less with lower | ⟨rfl, lower⟩
      · exact noRow otherPlace lower otherRow inRows' other ((each otherRow).member there')
      · obtain rfl := Option.some.inj (inRows.symm.trans inRows')
        exact before otherRest lower other there'

end Rows

namespace Loader

variable {loader : Loader} {surroundings : Surroundings} {candidate : Candidate}

/-- The candidate at a place of the search: the places of its directory, its name, its format, and its
extension among those of the format. -/
def candidateAt? (directories : List String) : (place : List Nat) → Option Candidate :=
  within directories fun directory => within stems fun stem => within FileFormat.all fun format =>
    within format.extensions fun extension => only ⟨directory, stem, format, extension⟩

/-- The main file of the candidate is there, and none at an earlier place. -/
def Finds (loader : Loader) (surroundings : Surroundings) (candidate : Candidate) : Prop :=
  ∃ place, candidateAt? (loader.searched surroundings) place = some candidate ∧
    surroundings.hasFile candidate.main = true ∧
    ∀ earlier < place, ∀ other, candidateAt? (loader.searched surroundings) earlier = some other →
      surroundings.hasFile other.main = false

/-- The candidates are those of all directories in turn. -/
theorem indexes_candidates (directories : List String) :
    Indexes (candidateAt? directories) (candidates directories) := by
  refine .within (fun directory => .within (fun stem => .within (fun format => ?_) _) _) _
  rw [List.map_eq_flatMap]
  exact .within (fun extension => indexes_only _) _

/-- Two candidates that are found are the same, since of two places one is earlier. -/
theorem Finds.unique {other : Candidate} (finds : loader.Finds surroundings candidate)
    (finds' : loader.Finds surroundings other) : candidate = other := by
  obtain ⟨place, at_, there, before⟩ := finds
  obtain ⟨place', at', there', before'⟩ := finds'
  rcases lt_trichotomy place place' with less | rfl | less
  · exact absurd (there.symm.trans (before' place less candidate at_)) nofun
  · exact Option.some.inj (at_.symm.trans at')
  · exact absurd (there'.symm.trans (before place' less other at')) nofun

/-- The main file that is discovered is the first candidate there is. -/
theorem discover?_eq_some :
    loader.discover? surroundings = some candidate ↔ loader.Finds surroundings candidate := by
  have indexes := indexes_candidates (loader.searched surroundings)
  have found {candidate : Candidate} (found : loader.discover? surroundings = some candidate) :
      loader.Finds surroundings candidate := by
    obtain ⟨place, at_, before⟩ := indexes.first found
    exact ⟨place, at_, by simpa using List.find?_some found, before⟩
  refine ⟨found, fun finds => ?_⟩
  cases discovered : loader.discover? surroundings with
  | some other => rw [(found discovered).unique finds]
  | none =>
    obtain ⟨place, at_, there, _⟩ := finds
    exact absurd there (List.find?_eq_none.mp discovered candidate (indexes.member at_))

/-! ### Where an overlay lies -/

namespace Candidate

/-- A file lies beside the main file: in the same directory, and its name begins with the same name and
ends with the same extension. -/
structure Beside (candidate : Candidate) (path : String) : Prop where
  directory : Path.directory path = Path.directory candidate.main
  name : ∃ middle, Path.fileName? path =
    some (candidate.stem ++ "." ++ middle ++ "." ++ candidate.extension)

/-- The name and the extension are usual ones. -/
structure Usual (candidate : Candidate) : Prop where
  stem : candidate.stem = "blockbot" ∨ candidate.stem = "config"
  extension : candidate.extension = "toml" ∨ candidate.extension = "yaml" ∨
    candidate.extension = "yml"

variable {profile : Profile}

theorem Usual.stem_letter (usual : candidate.Usual) :
    ∃ letter ∈ candidate.stem.toList, letter ≠ '/' ∧ letter ≠ '.' := by
  rcases usual.stem with same | same <;> rw [same]
  · exact ⟨'b', by decide⟩
  · exact ⟨'c', by decide⟩

theorem Usual.extension_letter (usual : candidate.Usual) :
    ∃ letter ∈ candidate.extension.toList, letter ≠ '/' ∧ letter ≠ '.' := by
  rcases usual.extension with same | same | same <;> rw [same]
  · exact ⟨'t', by decide⟩
  · exact ⟨'y', by decide⟩
  · exact ⟨'y', by decide⟩

/-- Neither stem nor extension of a usual candidate has a separator in it. -/
theorem Usual.noSlash (usual : candidate.Usual) :
    '/' ∉ candidate.stem.toList ∧ '/' ∉ candidate.extension.toList := by
  constructor
  · rcases usual.stem with same | same <;> rw [same] <;> decide
  · rcases usual.extension with same | same | same <;> rw [same] <;> decide

/-- A name that begins with a usual one and has no slash is a part of any path. -/
theorem Usual.isPart (usual : candidate.Usual) {rest : String} (noSlash : '/' ∉ rest.toList) :
    Path.IsPart (candidate.stem ++ rest) ∧ candidate.stem ++ rest ≠ ".." := by
  obtain ⟨letter, member, -, noPoint⟩ := usual.stem_letter
  have inside : letter ∈ (candidate.stem ++ rest).toList := by
    rw [String.toList_append]
    exact List.mem_append_left _ member
  refine ⟨⟨?_, ?_, ?_⟩, ?_⟩
  · intro same
    rw [same] at inside
    cases inside
  · intro same
    rw [same] at inside
    exact noPoint (List.mem_singleton.mp inside)
  · rw [String.toList_append, List.mem_append, not_or]
    exact ⟨usual.noSlash.1, noSlash⟩
  · intro same
    rw [same] at inside
    simp [noPoint] at inside

/-- The name of a usual candidate is one part of a path. -/
theorem Usual.isPart_main (usual : candidate.Usual) :
    Path.IsPart (candidate.stem ++ "." ++ candidate.extension) := by
  rw [String.append_assoc]
  refine (usual.isPart ?_).1
  simpa using usual.noSlash.2

/-- The name of an overlay does not begin at the root, whatever the profile is. -/
theorem Usual.relative (usual : candidate.Usual) : Path.isAbsolute
    (candidate.stem ++ "." ++ profile.name ++ "." ++ candidate.extension) = false := by
  rw [String.append_assoc, String.append_assoc, String.append_assoc]
  rcases usual.stem with same | same <;> rw [same, Path.isAbsolute_append (by decide)] <;>
    decide +kernel

/-- The profile is a part of the overlay's name, unless it has a slash. -/
theorem Usual.beside_of_noSlash (usual : candidate.Usual) (noSlash : '/' ∉ profile.name.toList) :
    candidate.Beside (candidate.overlay profile) := by
  have part : Path.IsPart (candidate.stem ++ "." ++ profile.name ++ "." ++ candidate.extension) ∧
      candidate.stem ++ "." ++ profile.name ++ "." ++ candidate.extension ≠ ".." := by
    simp only [String.append_assoc]
    refine usual.isPart ?_
    simp [noSlash, usual.noSlash.2]
  exact ⟨Path.directory_join _ part.1 usual.isPart_main, profile.name,
    Path.fileName?_join _ part.1 part.2⟩

/-- With a slash in the profile the overlay lies further down than the main file. -/
theorem Usual.noSlash_of_beside (usual : candidate.Usual)
    (beside : candidate.Beside (candidate.overlay profile)) : '/' ∉ profile.name.toList := by
  intro slash
  obtain ⟨before, after, cut⟩ := List.append_of_mem slash
  have whole : candidate.stem ++ "." ++ profile.name ++ "." ++ candidate.extension =
      (candidate.stem ++ "." ++ String.ofList before) ++ "/" ++
        (String.ofList after ++ "." ++ candidate.extension) := by
    rw [← String.toList_inj]
    simp [cut]
  have first : Path.parts (candidate.stem ++ "." ++ String.ofList before) ≠ [] := by
    obtain ⟨letter, member, noSlash, noPoint⟩ := usual.stem_letter
    exact Path.parts_ne_nil (by simp [member]) noSlash noPoint
  have last : Path.parts (String.ofList after ++ "." ++ candidate.extension) ≠ [] := by
    obtain ⟨letter, member, noSlash, noPoint⟩ := usual.extension_letter
    exact Path.parts_ne_nil (by simp [member]) noSlash noPoint
  have parts : Path.parts (candidate.overlay profile) = Path.parts candidate.directory ++
      (Path.parts (candidate.stem ++ "." ++ String.ofList before) ++
        Path.parts (String.ofList after ++ "." ++ candidate.extension)) := by
    rw [overlay, Path.parts_join_of_relative _ usual.relative, whole, Path.parts_slash]
  have same := congrArg (fun path => (Path.parts path).length) beside.directory
  simp only [Path.parts_directory, parts, main, Path.parts_join _ usual.isPart_main,
    List.length_dropLast, List.length_append, List.length_singleton] at same
  rw [← List.length_pos_iff] at first last
  omega

/-- The overlay of a usual candidate lies beside it exactly when the profile has no separator. -/
theorem Usual.beside_overlay_iff (usual : candidate.Usual) :
    candidate.Beside (candidate.overlay profile) ↔ '/' ∉ profile.name.toList :=
  ⟨usual.noSlash_of_beside, usual.beside_of_noSlash⟩

end Candidate

/-- What is found by its standard names is a usual candidate. -/
theorem Finds.usual (finds : loader.Finds surroundings candidate) : candidate.Usual := by
  obtain ⟨place, at_, -⟩ := finds
  have member := (indexes_candidates _).member at_
  simp only [candidates, List.mem_flatMap, List.mem_map] at member
  obtain ⟨directory, -, stem, usual, format, -, extension, known, rfl⟩ := member
  refine ⟨by simpa [stems] using usual, ?_⟩
  cases format with
  | toml => exact .inl (List.mem_singleton.mp known)
  | yaml => exact .inr (by simpa [FileFormat.extensions] using known)

/-! ### The sources and what they say -/

end Loader

/-- Where settings come from. -/
inductive Source where
  | defaults
  | overlay
  | main
  | environment
  | override (place : Nat)
deriving DecidableEq, Repr

/-- Sources of higher ranks go before those of lower ones. -/
def Source.rank : Source → Nat
  | .defaults => 0
  | .overlay => 1
  | .main => 2
  | .environment => 3
  | .override place => 4 + place

namespace Variable

/-- The variables that name the profile and the file, in any case. -/
def isGuide (name : String) : Bool :=
  [profileName, fileName].any fun guide =>
    (Text.trimBlank name.toList).map Char.toLower == guide.toList.map Char.toLower

/-- The variables that guide the loader are the two that name the profile and the file, blanks and
case apart. -/
theorem isGuide_iff {name : String} : isGuide name = true ↔
    (Text.trimBlank name.toList).map Char.toLower = profileName.toList.map Char.toLower ∨
      (Text.trimBlank name.toList).map Char.toLower = fileName.toList.map Char.toLower := by
  simp [isGuide]

/-- Behind the prefix a variable goes on with the rest of its name. -/
theorem map_toLower_suffix {name : String} {suffix : List Char} (behind : suffix? name = some suffix) :
    suffix.map Char.toLower =
      ((Text.trimBlank name.toList).map Char.toLower).drop nameStart.toList.length := by
  rw [suffix?] at behind
  split at behind
  · obtain rfl := Option.some.inj behind
    rw [List.map_drop, List.length_map]
  · cases behind

/-- What names the profile or the file is no setting. -/
theorem settings?_of_guide {odd? : String × String → Option Json} {entry : String × String}
    (guide : isGuide entry.1 = true) : settings? odd? entry = none := by
  cases behind : suffix? entry.1 with
  | none =>
    rw [settings?, behind]
    rfl
  | some suffix =>
    have rest := map_toLower_suffix behind
    have reserved : isReserved suffix = true := by
      rw [isReserved, rest]
      rcases isGuide_iff.mp guide with named | named <;> rw [named] <;> decide
    rw [settings?, behind]
    exact if_pos reserved

end Variable

namespace FileFormat

/-- The extension of a path is one of a format. -/
def Fits (format : FileFormat) (path : String) : Prop :=
  ∃ extension ∈ format.extensions, Path.extension? path = some extension

variable {format : FileFormat} {path : String}

/-- The format of a file goes by the end of its path. -/
theorem ofPath?_eq_some : ofPath? path = some format ↔ format.Fits path := by
  unfold ofPath? Fits
  cases Path.extension? path with
  | none => simp
  | some extension =>
    rw [Option.bind_eq_bind, Option.bind_some]
    by_cases known : extension = "toml" ∨ extension = "yaml" ∨ extension = "yml"
    · rcases known with rfl | rfl | rfl <;> cases format <;> decide
    · obtain ⟨noToml, noYaml, noYml⟩ : extension ≠ "toml" ∧ extension ≠ "yaml" ∧ extension ≠ "yml" := by
        simpa only [not_or] using known
      cases format <;> simp [all, extensions, noToml, noYaml, noYml]

end FileFormat

namespace Loader

variable {loader : Loader} {surroundings : Surroundings}

/-- What a source says, as far as it is heard: nothing if it cannot be read. -/
inductive Tells (loader : Loader) (surroundings : Surroundings) : Source → Option Json → Prop
  | defaults : Tells loader surroundings .defaults (some (Settings.toJson {}))
  | overlay {candidate : Candidate} {text : String} (unnamed : loader.file = none)
      (found : loader.Finds surroundings candidate)
      (there : surroundings.file? (candidate.overlay loader.profile) = some text) :
      Tells loader surroundings .overlay (candidate.format.read? text)
  | found {candidate : Candidate} {text : String} (unnamed : loader.file = none)
      (found : loader.Finds surroundings candidate)
      (there : surroundings.file? candidate.main = some text) :
      Tells loader surroundings .main (candidate.format.read? text)
  | named {path text : String} {format : FileFormat} (named : loader.file = some path)
      (there : surroundings.file? path = some text) (fits : format.Fits path) :
      Tells loader surroundings .main (format.read? text)
  | environment (uses : loader.usesVariables = true) :
      Tells loader surroundings .environment (some (Json.overlayAll
        ((surroundings.environment.filter fun entry => !Variable.isGuide entry.1).filterMap
          (Variable.settings? surroundings.oddVariable?))))
  | override {place : Nat} {settings : Settings} (there : loader.overrides[place]? = some settings) :
      Tells loader surroundings (.override place) (some settings.toJson)

/-- At every path the source of the highest rank decides, of those that set it. -/
structure Layered (loader : Loader) (surroundings : Surroundings) (merged : Json) : Prop where
  given : ∀ {source layer path}, loader.Tells surroundings source (some layer) → layer.Sets path →
    (∀ other upper, loader.Tells surroundings other (some upper) → source.rank < other.rank →
      ¬ upper.Sets path) →
    merged.setting path = layer.setting path
  unset : ∀ {path}, (∀ source layer, loader.Tells surroundings source (some layer) →
      ¬ layer.Sets path) →
    merged.setting path = .absent

/-- A file that is named is there and its extension is known. -/
def Ready (loader : Loader) (surroundings : Surroundings) : Prop :=
  ∀ path, loader.file = some path →
    ∃ text format, surroundings.file? path = some text ∧ FileFormat.Fits format path

/-- The layer of variables is made of all variables but those that guide the loader. -/
theorem variableLayer?_eq : loader.variableLayer? surroundings =
    if loader.usesVariables then
      some (Json.overlayAll
        ((surroundings.environment.filter fun entry => !Variable.isGuide entry.1).filterMap
          (Variable.settings? surroundings.oddVariable?)))
    else none := by
  have silent : ∀ entries : List (String × String),
      (entries.filter fun entry => !Variable.isGuide entry.1).filterMap
          (Variable.settings? surroundings.oddVariable?) =
        entries.filterMap (Variable.settings? surroundings.oddVariable?) := by
    intro entries
    induction entries with
    | nil => rfl
    | cons entry entries inductionHypothesis =>
      cases guide : Variable.isGuide entry.1 with
      | true =>
        rw [List.filter_cons_of_neg (by simp [guide]), inductionHypothesis,
          List.filterMap_cons_none (Variable.settings?_of_guide guide)]
      | false =>
        rw [List.filter_cons_of_pos (by simp [guide]), List.filterMap_cons, List.filterMap_cons,
          inductionHypothesis]
  rw [variableLayer?, silent]

/-! ### The layers in the order of the ranks -/

/-- What a file says, as an entry of its source. -/
def toldByFile? (surroundings : Surroundings) (source : Source) (format : FileFormat) (path : String) :
    Option (Source × Option Json) :=
  (surroundings.file? path).map fun text => (source, format.read? text)

/-- The layer of a file is what the file tells, if it is there. -/
theorem fileLayer_eq (source : Source) (format : FileFormat) (path : String) :
    fileLayer surroundings format path =
      (toldByFile? surroundings source format path).toList.map Prod.snd := by
  unfold fileLayer toldByFile?
  cases surroundings.file? path <;> rfl

/-- Entries in the order of their ranks, which are what sources of some kind tell. -/
structure Lists (loader : Loader) (surroundings : Surroundings) (kind : Source → Prop)
    (entries : List (Source × Option Json)) : Prop where
  ascending : (entries.map fun entry => entry.1.rank).Pairwise (· < ·)
  mem_iff : ∀ {source told}, (source, told) ∈ entries ↔
    loader.Tells surroundings source told ∧ kind source

/-- The sources that are files. -/
def IsFile (source : Source) : Prop := source = .overlay ∨ source = .main

/-- When the files are ready, their layers are those that the loader lists. -/
theorem exists_fileEntries (ready : loader.Ready surroundings) :
    ∃ entries, loader.fileLayers surroundings = .ok (entries.map Prod.snd) ∧
      loader.Lists surroundings IsFile entries := by
  unfold fileLayers
  cases named : loader.file with
  | some path =>
    obtain ⟨text, format, there, fits⟩ := ready path named
    refine ⟨[(.main, format.read? text)], ?_, List.pairwise_singleton _ _, ?_⟩
    · simp [Surroundings.hasFile, there, FileFormat.ofPath?_eq_some.mpr fits, fileLayer]
    intro source told
    constructor
    · intro member
      obtain ⟨rfl, rfl⟩ := Prod.mk.inj (List.mem_singleton.mp member)
      exact ⟨.named named there fits, .inr rfl⟩
    · rintro ⟨tells, rfl | rfl⟩
      · cases tells with
        | overlay unnamed => exact absurd (named.symm.trans unnamed) nofun
      · cases tells with
        | found unnamed => exact absurd (named.symm.trans unnamed) nofun
        | named named' there' fits' =>
          obtain rfl := Option.some.inj (named.symm.trans named')
          obtain rfl := Option.some.inj (there.symm.trans there')
          have same := (FileFormat.ofPath?_eq_some.mpr fits).symm.trans
            (FileFormat.ofPath?_eq_some.mpr fits')
          obtain rfl := Option.some.inj same
          exact List.mem_singleton_self _
  | none =>
    cases found : loader.discover? surroundings with
    | some candidate =>
      have finds := discover?_eq_some.mp found
      let overlay? := toldByFile? surroundings .overlay candidate.format
        (candidate.overlay loader.profile)
      let main? := toldByFile? surroundings .main candidate.format candidate.main
      refine ⟨overlay?.toList ++ main?.toList, ?_, ?_, ?_⟩
      · rw [List.map_append, ← fileLayer_eq, ← fileLayer_eq]
      · simp only [overlay?, main?, toldByFile?]
        cases surroundings.file? (candidate.overlay loader.profile) <;>
          cases surroundings.file? candidate.main <;> simp [Source.rank]
      intro source told
      rw [List.mem_append, Option.mem_toList, Option.mem_toList]
      constructor
      · rintro (overlays | mains)
        · obtain ⟨text, there, same⟩ := Option.map_eq_some_iff.mp overlays
          obtain ⟨rfl, rfl⟩ := Prod.mk.inj same
          exact ⟨.overlay named finds there, .inl rfl⟩
        · obtain ⟨text, there, same⟩ := Option.map_eq_some_iff.mp mains
          obtain ⟨rfl, rfl⟩ := Prod.mk.inj same
          exact ⟨.found named finds there, .inr rfl⟩
      · rintro ⟨tells, rfl | rfl⟩
        · cases tells with
          | overlay _ finds' there =>
            obtain rfl := finds.unique finds'
            exact .inl (Option.map_eq_some_iff.mpr ⟨_, there, rfl⟩)
        · cases tells with
          | found _ finds' there =>
            obtain rfl := finds.unique finds'
            exact .inr (Option.map_eq_some_iff.mpr ⟨_, there, rfl⟩)
          | named named' => exact absurd (named.symm.trans named') nofun
    | none =>
      refine ⟨[], rfl, List.Pairwise.nil, fun {source told} => ⟨nofun, ?_⟩⟩
      rintro ⟨tells, rfl | rfl⟩
      · cases tells with
        | overlay _ finds => exact absurd (found.symm.trans (discover?_eq_some.mpr finds)) nofun
      · cases tells with
        | found _ finds => exact absurd (found.symm.trans (discover?_eq_some.mpr finds)) nofun
        | named named' => exact absurd (named.symm.trans named') nofun

/-- The defaults are listed first. -/
theorem lists_defaults : loader.Lists surroundings (· = .defaults)
    [(.defaults, some (Settings.toJson {}))] where
  ascending := List.pairwise_singleton _ _
  mem_iff := by
    intro source told
    rw [List.mem_singleton]
    constructor
    · intro same
      obtain ⟨rfl, rfl⟩ := Prod.mk.inj same
      exact ⟨.defaults, rfl⟩
    · rintro ⟨tells, rfl⟩
      cases tells
      rfl

/-- What the environment variables tell. -/
def environmentEntries (loader : Loader) (surroundings : Surroundings) : List (Source × Option Json) :=
  (loader.variableLayer? surroundings).toList.map fun layer => (.environment, some layer)

theorem lists_environment : loader.Lists surroundings (· = .environment)
    (loader.environmentEntries surroundings) where
  ascending := by
    unfold environmentEntries
    cases loader.variableLayer? surroundings <;> simp
  mem_iff := by
    intro source told
    rw [environmentEntries, variableLayer?_eq]
    cases uses : loader.usesVariables with
    | true =>
      rw [if_pos rfl]
      show (source, told) ∈ [_] ↔ _
      rw [List.mem_singleton]
      constructor
      · intro same
        obtain ⟨rfl, rfl⟩ := Prod.mk.inj same
        exact ⟨.environment uses, rfl⟩
      · rintro ⟨tells, rfl⟩
        cases tells
        rfl
    | false =>
      rw [if_neg Bool.false_ne_true]
      refine ⟨nofun, ?_⟩
      rintro ⟨tells, rfl⟩
      cases tells with
      | environment uses' => exact absurd (uses.symm.trans uses') nofun

/-- What the settings tell that are laid over all others. -/
def overrideEntries (loader : Loader) : List (Source × Option Json) :=
  loader.overrides.zipIdx.map fun entry => (.override entry.2, some entry.1.toJson)

theorem lists_overrides : loader.Lists surroundings (fun source => ∃ place, source = .override place)
    loader.overrideEntries where
  ascending := by
    have ranks : loader.overrideEntries.map (fun entry => entry.1.rank) =
        (List.range' 0 loader.overrides.length).map (4 + ·) := by
      rw [← List.zipIdx_map_snd 0 loader.overrides, overrideEntries, List.map_map, List.map_map]
      rfl
    rw [ranks, List.pairwise_map]
    exact (List.pairwise_lt_range' 1).imp fun less => Nat.add_lt_add_left less 4
  mem_iff := by
    intro source told
    constructor
    · intro member
      obtain ⟨⟨settings, place⟩, there, same⟩ := List.mem_map.mp member
      obtain ⟨rfl, rfl⟩ := Prod.mk.inj same
      exact ⟨.override (List.mem_zipIdx_iff_getElem?.mp there), place, rfl⟩
    · rintro ⟨tells, place, rfl⟩
      cases tells with
      | override there =>
        exact List.mem_map.mpr ⟨(_, place), List.mem_zipIdx_iff_getElem?.mpr there, rfl⟩

/-- Two lists of sources make one if all of the second rank above all of the first. -/
theorem Lists.append {kind other : Source → Prop} {entries more : List (Source × Option Json)}
    (lists : loader.Lists surroundings kind entries) (lists' : loader.Lists surroundings other more)
    (below : ∀ source higher, kind source → other higher → source.rank < higher.rank) :
    loader.Lists surroundings (fun source => kind source ∨ other source) (entries ++ more) where
  ascending := by
    rw [List.map_append]
    refine List.pairwise_append.mpr ⟨lists.ascending, lists'.ascending, ?_⟩
    intro rank member rank' member'
    obtain ⟨⟨source, told⟩, there, rfl⟩ := List.mem_map.mp member
    obtain ⟨⟨higher, told'⟩, there', rfl⟩ := List.mem_map.mp member'
    exact below source higher (lists.mem_iff.mp there).2 (lists'.mem_iff.mp there').2
  mem_iff := by
    intro source told
    rw [List.mem_append, lists.mem_iff, lists'.mem_iff, ← and_or_left]

/-- The layers that loading works with are what the sources tell, in the order of their ranks. -/
theorem exists_entries (ready : loader.Ready surroundings) :
    ∃ entries, loader.layers surroundings = .ok (entries.map Prod.snd) ∧
      loader.Lists surroundings (fun _ => True) entries := by
  obtain ⟨files, layers, listsFiles⟩ := exists_fileEntries ready
  have lists := ((lists_defaults.append listsFiles ?_).append lists_environment ?_).append
    lists_overrides ?_
  · refine ⟨_, ?_, lists.ascending, fun {source told} => ?_⟩
    · have environment : (loader.environmentEntries surroundings).map Prod.snd =
          (loader.variableLayer? surroundings).toList.map some := by
        rw [environmentEntries, List.map_map]
        rfl
      have overrides : loader.overrideEntries.map Prod.snd =
          loader.overrides.map fun settings => some settings.toJson := by
        conv_rhs => rw [← List.zipIdx_map_fst 0 loader.overrides]
        rw [overrideEntries, List.map_map, List.map_map]
        rfl
      rw [Loader.layers, layers, List.map_append, List.map_append, environment, overrides]
      rfl
    · rw [lists.mem_iff, and_true, and_iff_left_iff_imp]
      intro _
      cases source with
      | defaults => exact .inl (.inl (.inl rfl))
      | overlay => exact .inl (.inl (.inr (.inl rfl)))
      | main => exact .inl (.inl (.inr (.inr rfl)))
      | environment => exact .inl (.inr rfl)
      | override place => exact .inr ⟨place, rfl⟩
  · rintro _ _ rfl (rfl | rfl) <;> decide
  · rintro _ _ (rfl | rfl | rfl) rfl <;> decide
  · rintro _ _ ((rfl | rfl | rfl) | rfl) ⟨place, rfl⟩ <;> simp only [Source.rank] <;> omega

end Loader

/-! ### Loading -/

theorem mapM_id_of_none_mem {list : List (Option Json)} (unread : none ∈ list) :
    list.mapM id = none := by
  induction list with
  | nil => cases unread
  | cons first rest inductionHypothesis =>
    rw [List.mapM_cons]
    rcases List.mem_cons.mp unread with rfl | later
    · rfl
    · cases first with
      | none => rfl
      | some value =>
        rw [inductionHypothesis later]
        rfl

/-- Entries that can all be read. -/
theorem exists_read {entries : List (Source × Option Json)} (read : ∀ entry ∈ entries, entry.2 ≠ none) :
    ∃ layers : List (Source × Json), entries = layers.map (Prod.map id some) := by
  induction entries with
  | nil => exact ⟨[], rfl⟩
  | cons entry entries inductionHypothesis =>
    obtain ⟨layers, rfl⟩ := inductionHypothesis fun other member => read other (.tail _ member)
    obtain ⟨source, told⟩ := entry
    obtain ⟨layer, rfl⟩ := Option.ne_none_iff_exists'.mp (read (source, told) List.mem_cons_self)
    exact ⟨(source, layer) :: layers, rfl⟩

namespace Loader

variable {loader : Loader} {surroundings : Surroundings}

/-- Layers that are laid over one another in order of rank give each path its topmost value. -/
theorem layered_overlayAll {layers : List (Source × Json)}
    (lists : loader.Lists surroundings (fun _ => True) (layers.map (Prod.map id some))) :
    loader.Layered surroundings (Json.overlayAll (layers.map Prod.snd)) := by
  have mem_iff (source : Source) (layer : Json) :
      (source, layer) ∈ layers ↔ loader.Tells surroundings source (some layer) := by
    have tells : (source, some layer) ∈ layers.map (Prod.map id some) ↔ _ := lists.mem_iff
    rw [and_true] at tells
    rw [← tells]
    constructor
    · exact fun member => List.mem_map.mpr ⟨_, member, rfl⟩
    · intro member
      obtain ⟨⟨_, _⟩, there, same⟩ := List.mem_map.mp member
      cases same
      exact there
  have ascending := lists.ascending
  rw [List.map_map] at ascending
  refine ⟨fun tells sets highest => ?_, fun {path} silent => ?_⟩
  · refine Json.setting_overlayAll ascending ((mem_iff _ _).mpr tells) sets fun other there => ?_
    exact highest other.1 other.2 ((mem_iff _ _).mp there)
  · cases path with
    | nil => exact absurd (Json.sets_nil _) (silent .defaults _ .defaults)
    | cons key path =>
      refine Json.setting_overlayAll_of_not_sets fun layer member => ?_
      obtain ⟨entry, there, rfl⟩ := List.mem_map.mp member
      exact silent entry.1 entry.2 ((mem_iff _ _).mp there)

/-- Loading fails with the fault of the files. -/
theorem load_of_error {fault : SettingsFault} (failed : loader.fileLayers surroundings = .error fault)
    (now : Moment) : loader.load surroundings now = .error fault := by
  rw [load, layers, failed]
  rfl

/-- Once the layers are there, loading is merging, extracting and validating. -/
theorem load_of_layers {list : List (Option Json)} (made : loader.layers surroundings = .ok list)
    (now : Moment) :
    loader.load surroundings now =
      match (list.mapM id).bind (Settings.ofLayers? now) with
      | none => .error .unreadable
      | some settings => settings.validate.map fun _ => settings := by
  rw [load, made]
  cases merged : (list.mapM id).bind (Settings.ofLayers? now) with
  | none => simp [merged, bind, Except.bind]
  | some settings => cases settings.validate <;> simp [merged, bind, Except.bind, Except.map]

/-- An overlay is used only if no file is named. It lies beside the main file that is found, unless the
profile has a slash in its name. -/
theorem overlay_of_tells {told : Option Json} (tells : loader.Tells surroundings .overlay told) :
    loader.file = none ∧ ∃ candidate, loader.Finds surroundings candidate ∧
      surroundings.hasFile (candidate.overlay loader.profile) = true ∧
      (candidate.Beside (candidate.overlay loader.profile) ↔ '/' ∉ loader.profile.name.toList) := by
  cases tells with
  | overlay unnamed found there =>
    exact ⟨unnamed, _, found, by simp [Surroundings.hasFile, there], found.usual.beside_overlay_iff⟩

/-- Where every source that is heard can be read, the highest source that sets a path decides there, and the
settings are what stands at their paths. -/
theorem load_of_read (ready : loader.Ready surroundings)
    (read : ∀ source, ¬ loader.Tells surroundings source none) (now : Moment) :
    ∃ merged, loader.Layered surroundings merged ∧
      loader.load surroundings now =
        (match Settings.ofMerged? now merged with
          | none => .error .unreadable
          | some settings => settings.validate.map fun _ => settings) ∧
      ∀ settings, loader.load surroundings now = .ok settings → settings.GivenBy now merged := by
  obtain ⟨entries, made, lists⟩ := exists_entries ready
  have read : ∀ entry ∈ entries, entry.2 ≠ none := fun entry member unread =>
    read entry.1 (unread ▸ (lists.mem_iff.mp member).1)
  obtain ⟨layers, rfl⟩ := exists_read read
  have values : (layers.map (Prod.map id some)).map Prod.snd = (layers.map Prod.snd).map some := by
    rw [List.map_map, List.map_map]
    rfl
  have collected : ((layers.map Prod.snd).map some).mapM id = some (layers.map Prod.snd) :=
    Json.mapM_map fun _ _ => rfl
  have loads := load_of_layers made now
  rw [values, collected] at loads
  refine ⟨_, layered_overlayAll lists, loads, fun settings loaded => ?_⟩
  rw [loads, Option.bind_some] at loaded
  split at loaded
  next => cases loaded
  next other merged =>
    cases checked : other.validate with
    | error => simp [checked, Except.map] at loaded
    | ok =>
      rw [checked] at loaded
      cases loaded
      exact Settings.givenBy_of_ofMerged? merged

/-- A named file that is not there, or whose extension is unknown, is an error. An overlay is used only if
no file is named, and lies beside the main file found exactly if the profile has no slash in its name. If a
source that is heard cannot be read, loading fails; otherwise the highest source that sets a path decides
there, and the settings, if they are valid, are what stands at their paths. -/
theorem load_eq (loader : Loader) (surroundings : Surroundings) (now : Moment) :
    (∀ path, loader.file = some path → surroundings.file? path = none →
      loader.load surroundings now = .error (.fileNotFound path)) ∧
    (∀ path, loader.file = some path → surroundings.file? path ≠ none →
      (∀ format, ¬ FileFormat.Fits format path) →
      loader.load surroundings now = .error (.unsupportedFormat path)) ∧
    (∀ told, loader.Tells surroundings .overlay told →
      loader.file = none ∧ ∃ candidate, loader.Finds surroundings candidate ∧
        surroundings.hasFile (candidate.overlay loader.profile) = true ∧
        (candidate.Beside (candidate.overlay loader.profile) ↔
          '/' ∉ loader.profile.name.toList)) ∧
    ((∀ path, loader.file = some path →
        surroundings.file? path ≠ none ∧ ∃ format, FileFormat.Fits format path) →
      ((∃ source, loader.Tells surroundings source none) →
        loader.load surroundings now = .error .unreadable) ∧
      ((∀ source, ¬ loader.Tells surroundings source none) →
        ∃ merged, loader.Layered surroundings merged ∧
          loader.load surroundings now =
            (match Settings.ofMerged? now merged with
              | none => .error .unreadable
              | some settings => settings.validate.map fun _ => settings) ∧
          ∀ settings, loader.load surroundings now = .ok settings →
            settings.GivenBy now merged)) := by
  refine ⟨fun path named absent => ?_, fun path named there unknown => ?_,
    fun told => overlay_of_tells, fun ready => ?_⟩
  · refine load_of_error ?_ now
    have missing : surroundings.hasFile path = false := by simp [Surroundings.hasFile, absent]
    simp only [fileLayers, named, missing, if_neg Bool.false_ne_true]
  · refine load_of_error ?_ now
    have present : surroundings.hasFile path = true := Option.isSome_iff_ne_none.mpr there
    have noFormat : FileFormat.ofPath? path = none := by
      cases read : FileFormat.ofPath? path with
      | none => rfl
      | some format => exact absurd (FileFormat.ofPath?_eq_some.mp read) (unknown format)
    simp only [fileLayers, named, present, noFormat, if_true]
  · have ready : loader.Ready surroundings := by
      intro path named
      obtain ⟨there, format, fits⟩ := ready path named
      obtain ⟨text, there⟩ := Option.ne_none_iff_exists'.mp there
      exact ⟨text, format, there, fits⟩
    refine ⟨?_, fun read => load_of_read ready read now⟩
    rintro ⟨source, tells⟩
    obtain ⟨entries, made, lists⟩ := exists_entries ready
    have unread : none ∈ entries.map Prod.snd :=
      List.mem_map.mpr ⟨_, lists.mem_iff.mpr ⟨tells, trivial⟩, rfl⟩
    rw [load_of_layers made, mapM_id_of_none_mem unread]
    rfl

/-- A loader for a profile with a slash in its name. -/
def slashed : Loader where
  profile := .ofName "x/y"
  directories := ["/d"]

/-- The main file that it finds. -/
def slashedMain : Candidate := ⟨"/d", "blockbot", .toml, "toml"⟩

/-- A directory with a main file, and further files. -/
def surroundedBy (files : List (String × String)) : Surroundings where
  environment := []
  directory := "/"
  configDirectory := none
  file? := fun path => List.lookup path
    (("/d/blockbot.toml", "[manager]\nevent_buffer = 3\n") :: files)

def slashedSurroundings : Surroundings :=
  surroundedBy [("/d/blockbot.x/y.toml", "[manager]\nclose_timeout_ms = 77\n")]

/-- An overlay in another directory and with another name is used as well: without it the setting is the
usual one. -/
theorem overlay_elsewhere :
    slashed.Finds slashedSurroundings slashedMain ∧
      ¬ slashedMain.Beside (slashedMain.overlay slashed.profile) ∧
      Path.directory slashedMain.main = "/d" ∧
      Path.directory (slashedMain.overlay slashed.profile) = "/d/blockbot.x" ∧
      Path.fileName? (slashedMain.overlay slashed.profile) = some "y.toml" ∧
      ((slashed.load slashedSurroundings (.ofSeconds 0 0)).toOption.map (·.manager.closeTimeout)) =
        some 77 ∧
      ((slashed.load (surroundedBy []) (.ofSeconds 0 0)).toOption.map (·.manager.closeTimeout)) =
        some 5000 := by
  have found : slashed.Finds slashedSurroundings slashedMain :=
    discover?_eq_some.mp (by decide +kernel)
  have slash : '/' ∈ slashed.profile.name.toList := by decide +kernel
  exact ⟨found, fun beside => found.usual.beside_overlay_iff.mp beside slash, by decide +kernel,
    by decide +kernel, by decide +kernel, by decide +kernel, by decide +kernel⟩

end Loader

end BotHost
