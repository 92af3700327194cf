/-
Paths, and the files that they name.

Between its slashes a path has parts that count and pieces that do not: nothing, or a single point. The
file that it names is its last part, if there is one and that does not lead upwards; what follows it are
slashes and single points. Taking the name off leaves the directory, and joining the two again leads to the
same place.
-/

import BotHost.Proofs.Text.Cutting
import BotHost.Text.Path
import Mathlib.Data.List.Basic

namespace BotHost.Path

variable {path name : String}

/-- A piece that is a part of any path. -/
def IsPart (piece : String) : Prop :=
  piece ≠ "" ∧ piece ≠ "." ∧ '/' ∉ piece.toList

/-- The path names a file in a directory: the name, and behind it only pieces that do not count. -/
structure EndsIn (path name : String) : Prop where
  part : IsPart name
  stays : name ≠ ".."
  cut : ∃ before after, path = "/".intercalate (before ++ name :: after) ∧
    ∀ piece ∈ after, piece = "" ∨ piece = "."

/-! ### Parts -/

/-- Everything between the slashes of a path. -/
def pieces (path : String) : List String :=
  (Text.splitOn '/' path.toList).map String.ofList

theorem parts_eq (path : String) :
    parts path = (pieces path).filter fun piece => piece != "" && piece != "." := rfl

theorem intercalate_pieces (path : String) : "/".intercalate (pieces path) = path := by
  rw [← String.toList_inj, String.toList_intercalate, pieces, List.map_map]
  have same : String.toList ∘ String.ofList = id := funext fun _ => String.toList_ofList
  rw [same, List.map_id, Text.splitOn_eq]
  exact List.intercalate_splitOn '/'

/-- A separator divides the parts before it from those behind. -/
theorem parts_slash (above below : String) :
    parts (above ++ "/" ++ below) = parts above ++ parts below := by
  have cut : (above ++ "/" ++ below).toList = above.toList ++ '/' :: below.toList := by
    simp
  rw [parts_eq, parts_eq, parts_eq, pieces, cut, Text.splitOn_eq, List.splitOn_append_cons_self,
    List.map_append, List.filter_append, ← Text.splitOn_eq, ← Text.splitOn_eq]
  rfl

/-- The parts of a path that is put together are those of its pieces in turn. -/
theorem parts_intercalate (list : List String) :
    parts ("/".intercalate list) = list.flatMap parts := by
  induction list with
  | nil => rfl
  | cons first rest inductionHypothesis =>
    cases rest with
    | nil => simp
    | cons second rest =>
      rw [String.intercalate_cons_cons, parts_slash, inductionHypothesis]
      rfl

theorem parts_of_isPart (part : IsPart name) : parts name = [name] := by
  obtain ⟨present, counts, whole⟩ := part
  have single : pieces name = [name] := by
    have cut : (['/'].intercalate [name.toList]).splitOn '/' = [name.toList] :=
      List.splitOn_intercalate '/' (by simpa using whole) nofun
    rw [List.intercalate_singleton] at cut
    rw [pieces, Text.splitOn_eq, cut, List.map_singleton, String.ofList_toList]
  rw [parts_eq, single]
  simp [present, counts]

theorem isPart_of_mem_parts (among : name ∈ parts path) : IsPart name := by
  obtain ⟨inside, counts⟩ := List.mem_filter.mp among
  obtain ⟨piece, member, rfl⟩ := List.mem_map.mp inside
  simp only [Bool.and_eq_true, bne_iff_ne] at counts
  refine ⟨counts.1, counts.2, ?_⟩
  rw [String.toList_ofList]
  exact fun slash => (Text.mem_of_mem_splitOn member '/' slash).1 rfl

theorem flatMap_parts {list : List String} (each : ∀ part ∈ list, IsPart part) :
    list.flatMap parts = list := by
  induction list with
  | nil => rfl
  | cons first rest inductionHypothesis =>
    obtain ⟨part, others⟩ := List.forall_mem_cons.mp each
    rw [List.flatMap_cons, parts_of_isPart part, inductionHypothesis others, List.singleton_append]

/-! ### The file name -/

/-- The file that a path names. -/
theorem fileName?_eq_some_iff : fileName? path = some name ↔ EndsIn path name := by
  unfold fileName?
  rw [Option.filter_eq_some_iff]
  constructor
  · rintro ⟨last, stays⟩
    obtain ⟨others, whole⟩ := List.getLast?_eq_some_iff.mp last
    have part : IsPart name := isPart_of_mem_parts (by rw [whole]; simp)
    obtain ⟨front, back, cut, -, ends⟩ := List.filter_eq_append_iff.mp whole
    obtain ⟨between, after, rfl, -, -, vacant⟩ := List.filter_eq_cons_iff.mp ends
    refine ⟨part, by simpa using stays, front ++ between, after, ?_, fun piece member => ?_⟩
    · rw [List.append_assoc, ← cut]
      exact (intercalate_pieces path).symm
    · have dropped := List.filter_eq_nil_iff.mp vacant piece member
      by_contra counts
      simp_all
  · rintro ⟨part, stays, before, after, rfl, vacant⟩
    have nothing : after.flatMap parts = [] := by
      rw [List.flatMap_eq_nil_iff]
      intro piece member
      obtain rfl | rfl := vacant piece member <;> rfl
    rw [parts_intercalate, List.flatMap_append, List.flatMap_cons, nothing, parts_of_isPart part,
      List.append_nil]
    exact ⟨List.getLast?_concat, by simpa using stays⟩

/-! ### The directory -/

theorem isAbsolute_iff : isAbsolute path = true ↔ ['/'] <+: path.toList := by
  simp [isAbsolute]

/-- A part does not begin at the root, nor does a path made of parts. -/
theorem isAbsolute_of_isPart (part : IsPart name) : isAbsolute name = false := by
  rw [Bool.eq_false_iff, Ne, isAbsolute_iff]
  exact fun begins => part.2.2 (begins.subset List.mem_cons_self)

theorem isAbsolute_append {above : String} (present : above ≠ "") (below : String) :
    isAbsolute (above ++ below) = isAbsolute above := by
  rw [Bool.eq_iff_iff, isAbsolute_iff, isAbsolute_iff, String.toList_append]
  cases characters : above.toList with
  | nil => exact absurd (String.toList_eq_nil_iff.mp characters) present
  | cons first rest => simp [List.cons_prefix_cons]

theorem isAbsolute_intercalate {list : List String} (each : ∀ part ∈ list, IsPart part) :
    isAbsolute ("/".intercalate list) = false := by
  cases list with
  | nil => decide +kernel
  | cons first rest =>
    obtain ⟨part, -⟩ := List.forall_mem_cons.mp each
    cases rest with
    | nil => simpa using isAbsolute_of_isPart part
    | cons second rest =>
      rw [String.intercalate_cons_cons, String.append_assoc, isAbsolute_append part.1]
      exact isAbsolute_of_isPart part

theorem isPart_of_mem_dropLast (path : String) : ∀ part ∈ (parts path).dropLast, IsPart part :=
  fun _ member => isPart_of_mem_parts (List.dropLast_subset _ member)

/-- The directory of a path has all its parts but the last. -/
theorem parts_directory (path : String) : parts (directory path) = (parts path).dropLast := by
  have above : parts ("/".intercalate (parts path).dropLast) = (parts path).dropLast := by
    rw [parts_intercalate]
    exact flatMap_parts (isPart_of_mem_dropLast path)
  unfold directory
  dsimp only
  split
  · rw [show "/" ++ "/".intercalate (parts path).dropLast =
      "" ++ "/" ++ "/".intercalate (parts path).dropLast by rfl, parts_slash, above]
    rfl
  · split
    next empty =>
      rw [String.isEmpty_iff] at empty
      rw [← above, empty]
      rfl
    next => exact above

/-- A directory is absolute when the path in it is. -/
theorem isAbsolute_directory (path : String) : isAbsolute (directory path) = isAbsolute path := by
  unfold directory
  dsimp only
  split
  next absolute =>
    rw [absolute, isAbsolute_append (by decide)]
    decide +kernel
  next relative =>
    rw [Bool.not_eq_true] at relative
    rw [relative]
    split
    · decide +kernel
    · exact isAbsolute_intercalate (isPart_of_mem_dropLast path)

theorem directory_ne_empty (path : String) : directory path ≠ "" := by
  unfold directory
  dsimp only
  split
  · simp
  · split
    · decide
    next above => exact fun empty => above (String.isEmpty_iff.mpr empty)

/-! ### Directory and name together -/

theorem exists_above {directory : String} (ends : directory.endsWith "/" = true) :
    ∃ above, directory = above ++ "/" := by
  obtain ⟨above, whole⟩ := String.Slice.endsWith_string_iff.mp ends
  rw [String.copy_toSlice] at whole
  refine ⟨String.ofList above, String.toList_inj.mp ?_⟩
  rw [String.toList_append, String.toList_ofList, whole]

/-- A relative path is put behind the parts of the directory. -/
theorem parts_join_of_relative (directory : String) (relative : isAbsolute name = false) :
    parts (join directory name) = parts directory ++ parts name := by
  unfold join
  rw [relative, Bool.false_or]
  split
  next empty =>
    rw [String.isEmpty_iff.mp empty]
    rfl
  next =>
    split
    next ends =>
      obtain ⟨above, rfl⟩ := exists_above ends
      have nothing : parts (above ++ "/") = parts above := by
        rw [← String.append_empty (s := above ++ "/"), parts_slash]
        exact List.append_nil _
      rw [nothing, parts_slash]
    next => rw [parts_slash]

/-- One part is put behind the parts of the directory. -/
theorem parts_join (directory : String) (part : IsPart name) :
    parts (join directory name) = parts directory ++ [name] := by
  rw [parts_join_of_relative directory (isAbsolute_of_isPart part), parts_of_isPart part]

/-- The file name of a joined path is the part that was joined. -/
theorem fileName?_join (directory : String) (part : IsPart name) (stays : name ≠ "..") :
    fileName? (join directory name) = some name := by
  simp [fileName?, parts_join directory part, stays]

theorem isAbsolute_join {directory : String} (present : directory ≠ "") (part : IsPart name) :
    isAbsolute (join directory name) = isAbsolute directory := by
  unfold join
  rw [isAbsolute_of_isPart part, Bool.false_or, if_neg (by rwa [String.isEmpty_iff])]
  split
  · rw [isAbsolute_append present]
  · rw [String.append_assoc, isAbsolute_append present]

/-- The directory of a path depends on the parts above the last one, and on whether it begins at the root. -/
theorem directory_congr {other : String} (above : (parts path).dropLast = (parts other).dropLast)
    (root : isAbsolute path = isAbsolute other) : directory path = directory other := by
  unfold directory
  rw [above, root]

/-- Two names in a directory have the same directory. -/
theorem directory_join {other : String} (directory : String) (part : IsPart name)
    (part' : IsPart other) :
    Path.directory (join directory name) = Path.directory (join directory other) := by
  refine directory_congr ?_ ?_
  · rw [parts_join directory part, parts_join directory part', List.dropLast_concat,
      List.dropLast_concat]
  · by_cases empty : directory = ""
    · subst empty
      have join_empty (name : String) : join "" name = name := by simp [join]
      rw [join_empty, join_empty, isAbsolute_of_isPart part, isAbsolute_of_isPart part']
    · rw [isAbsolute_join empty part, isAbsolute_join empty part']

theorem mem_intercalate {character : Char} (list : List String)
    (member : character ∈ ("/".intercalate list).toList) :
    character = '/' ∨ ∃ piece ∈ list, character ∈ piece.toList := by
  induction list with
  | nil => simp at member
  | cons first rest inductionHypothesis =>
    cases rest with
    | nil => exact .inr ⟨first, List.mem_cons_self, by simpa using member⟩
    | cons second rest =>
      rw [String.intercalate_cons_cons, String.toList_append, String.toList_append,
        List.mem_append, List.mem_append] at member
      rcases member with (own | slash) | later
      · exact .inr ⟨first, List.mem_cons_self, own⟩
      · exact .inl (List.mem_singleton.mp slash)
      · exact (inductionHypothesis later).imp_right fun ⟨piece, among, inside⟩ =>
          ⟨piece, List.mem_cons_of_mem _ among, inside⟩

/-- A path that has a character besides slashes and points has a part. -/
theorem parts_ne_nil {character : Char} (member : character ∈ path.toList) (noSlash : character ≠ '/')
    (noPoint : character ≠ '.') : parts path ≠ [] := by
  intro none
  rw [parts_eq, List.filter_eq_nil_iff] at none
  rw [← intercalate_pieces path] at member
  obtain ⟨piece, among, inside⟩ := (mem_intercalate _ member).resolve_left noSlash
  have empty : piece = "" ∨ piece = "." := by
    by_contra counts
    exact none piece among (by simpa using counts)
  rcases empty with rfl | rfl
  · cases inside
  · exact noPoint (List.mem_singleton.mp inside)

/-- The directory of a file and its name are the parts of the path. -/
theorem parts_of_endsIn (named : EndsIn path name) :
    parts path = parts (directory path) ++ [name] := by
  have last := (Option.filter_eq_some_iff.mp (fileName?_eq_some_iff.mpr named)).1
  rw [parts_directory]
  exact (List.dropLast_append_getLast? name last).symm

/-- The name of a file in its directory leads to the file. -/
theorem resolve_join (named : EndsIn path name) (from? : String) :
    resolve from? (join (directory path) name) = resolve from? path := by
  unfold resolve
  rw [isAbsolute_join (directory_ne_empty path) named.part, isAbsolute_directory,
    parts_join _ named.part, ← parts_of_endsIn named]

end BotHost.Path
