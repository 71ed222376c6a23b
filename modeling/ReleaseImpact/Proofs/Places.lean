import ReleaseImpact.Proofs.FileTree
import ReleaseImpact.Survey.Place

/-!
What the place of a file below a directory says, wherever the directory is. Main statements:

- `moduleOfParts?_append`: what comes before a module does not change its name.
- `moduleOfFile?_below`: a file in a module below a directory is in that module.
- `areaScope_below`: the area of a file two levels below a directory is told by the level between.
-/

namespace ReleaseImpact

theorem moduleOfParts?_append {back : List String} {moduleName : String}
    (housed : moduleOfParts? back = some moduleName) (front : List String) :
    moduleOfParts? (front ++ back) = some moduleName := by
  induction front with
  | nil => exact housed
  | cons part front ih =>
    obtain ⟨package, directory, rest, same⟩ : ∃ package directory rest,
        front ++ back = package :: directory :: rest := by
      unfold moduleOfParts? at ih
      split at ih
      · exact ⟨_, _, _, ‹_›⟩
      · cases ih
    rw [List.cons_append, same, moduleOfParts?, ← same, ih]

theorem three_le_length_of_housed {parts : List String} {moduleName : String}
    (housed : moduleOfParts? parts = some moduleName) : 3 ≤ parts.length := by
  unfold moduleOfParts? at housed
  split at housed
  · simp
  · cases housed

/-- A name that stays one part of a path under any system of separators. -/
structure WholeName (name : String) : Prop extends ProperName name where
  noBackslash : '\\' ∉ name.toList

theorem replaceChar_append (old new : Char) (front back : String) :
    Text.replaceChar old new (front ++ back) =
      Text.replaceChar old new front ++ Text.replaceChar old new back := by
  apply String.toList_inj.1
  simp [Text.replaceChar]

theorem replaceChar_of_whole {name : String} (whole : WholeName name) :
    Text.replaceChar '\\' '/' name = name := by
  have stays : name.toList.map (fun c => if c = '\\' then '/' else c) = name.toList.map id := by
    refine List.map_congr_left fun c member => if_neg ?_
    rintro rfl
    exact whole.noBackslash member
  rw [Text.replaceChar, stays, List.map_id, String.ofList_toList]

theorem replaceChar_join {location : Location} (whole : ∀ name ∈ location, WholeName name) :
    Text.replaceChar '\\' '/' (Text.join '/' location) = Text.join '/' location := by
  induction location with
  | nil => rfl
  | cons name rest ih =>
    obtain ⟨first, others⟩ := List.forall_mem_cons.1 whole
    have stays := replaceChar_of_whole first
    cases rest with
    | nil => rw [Text.join_singleton, stays]
    | cons next rest =>
      have joined := Text.join_append (List.cons_ne_nil name []) (List.cons_ne_nil next rest)
      rw [List.singleton_append, Text.join_singleton] at joined
      rw [joined, replaceChar_append, replaceChar_append, stays, ih others]
      rfl

theorem significant_of_proper {location : Location} (proper : ∀ name ∈ location, ProperName name) :
    Path.significant location = location :=
  List.filter_eq_self.2 fun name member => by
    simp [(proper name member).nonempty, (proper name member).notHere]

theorem parts_below (root : Path) {location : Location} (named : location ≠ [])
    (whole : ∀ name ∈ location, WholeName name) :
    ∃ front, (Path.ofText (Text.replaceChar '\\' '/' (root.below location).text)).parts =
      front ++ location := by
  have proper : ∀ name ∈ location, ProperName name := fun name member => (whole name member).toProperName
  have raw : Text.split '/' (Text.join '/' location) = location := rawParts_join named proper
  unfold Path.ofText
  dsimp only
  rcases text_below_cases root named with text | ⟨front, text⟩
  · rw [text, replaceChar_join whole, raw, significant_of_proper proper]
    exact ⟨[], rfl⟩
  · have slash : Text.replaceChar '\\' '/' "/" = "/" := by decide
    rw [text, replaceChar_append, replaceChar_append, replaceChar_join whole, slash, Text.split_append, raw,
      Path.significant, List.filter_append]
    exact ⟨_, congrArg _ (significant_of_proper proper)⟩

theorem moduleOfFile?_below (root : Path) {location : Location} {moduleName : String}
    (whole : ∀ name ∈ location, WholeName name) (housed : moduleOfParts? location = some moduleName) :
    moduleOfFile? (root.below location).text = some moduleName := by
  have named : location ≠ [] := by
    rintro rfl
    cases housed
  obtain ⟨front, parts⟩ := parts_below root named whole
  unfold moduleOfFile? Path.components
  rw [parts]
  split
  · exact moduleOfParts?_append housed front
  · rw [← List.cons_append]
    exact moduleOfParts?_append housed _

theorem areaScope_below (root other : Path) {location : Location} (deep : 2 ≤ location.length) :
    areaScope (root.below location) = areaScope (other.below location) := by
  have named : location ≠ [] := List.ne_nil_of_length_pos (by omega)
  have above : location.dropLast ≠ [] := List.ne_nil_of_length_pos (by rw [List.length_dropLast]; omega)
  have name (root : Path) : (root.below location).parent.name = location.dropLast.getLast?.getD "" := by
    rw [Path.parent, Path.below, Path.name, List.dropLast_append_of_ne_nil named,
      List.getLast?_append_of_ne_nil _ above]
  rw [areaScope, areaScope, name, name]

end ReleaseImpact
