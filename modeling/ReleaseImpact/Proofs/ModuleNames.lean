import ReleaseImpact.Proofs.Places

/-!
The module that a path names, however the path is written. Main statements:

- `spells_iff`: a text spells the parts of the path that it is read as, and no others.
- `moduleOfParts?_eq_none_iff`: parts name no module just if none of them is a configuration directory that has
  two parts before it.
- `moduleOfFile?_of_spells`: the module is told by the two parts before the last such directory.
-/

namespace ReleaseImpact

/-! ## Spellings of paths -/

/-- Slashes and backslashes alike stand between the parts of a path. -/
def IsSeparator (c : Char) : Prop := c = '/' ∨ c = '\\'

instance (c : Char) : Decidable (IsSeparator c) := inferInstanceAs (Decidable (_ ∨ _))

structure SpeltPart (part : String) : Prop where
  filled : part ≠ ""
  notHere : part ≠ "."
  whole : ∀ c ∈ part.toList, ¬IsSeparator c

/-- What stands between two separators: nothing, a single dot or a part. -/
inductive Piece : List String → List Char → Prop
  | nothing : Piece [] []
  | dot : Piece [] ['.']
  | part {part : String} (spelt : SpeltPart part) : Piece [part] part.toList

/-- A text that spells some parts, one after the other. Separators may be repeated, and they may stand in front
of all parts and behind them. -/
inductive Spells : List String → List Char → Prop
  | last {parts : List String} {text : List Char} (piece : Piece parts text) : Spells parts text
  | next {front parts : List String} {text rest : List Char} {c : Char} (piece : Piece front text)
      (between : IsSeparator c) (further : Spells parts rest) : Spells (front ++ parts) (text ++ c :: rest)

variable {parts : List String} {text : List Char}

theorem Piece.whole (piece : Piece parts text) : ∀ c ∈ text, ¬IsSeparator c := by
  cases piece with
  | nothing => exact List.forall_mem_nil _
  | dot => simp [IsSeparator]
  | part spelt => exact spelt.whole

theorem Piece.significant_eq (piece : Piece parts text) : Path.significant [String.ofList text] = parts := by
  cases piece with
  | nothing => decide
  | dot => decide
  | part spelt =>
    rw [String.ofList_toList]
    exact List.filter_eq_self.mpr (by simpa using ⟨spelt.filled, spelt.notHere⟩)

theorem exists_piece (whole : ∀ c ∈ text, ¬IsSeparator c) : ∃ parts, Piece parts text := by
  by_cases empty : text = []
  · exact ⟨[], empty ▸ .nothing⟩
  by_cases dot : text = ['.']
  · exact ⟨[], dot ▸ .dot⟩
  have spelt : SpeltPart (String.ofList text) :=
    { filled := fun same => empty (by simpa using congrArg String.toList same)
      notHere := fun same => dot (by simpa using congrArg String.toList same)
      whole := by rwa [String.toList_ofList] }
  exact ⟨[String.ofList text], by simpa using Piece.part spelt⟩

theorem Spells.cons_of_not_separator {c : Char} (spelt : Spells parts text) (whole : ¬IsSeparator c) :
    ∃ parts', Spells parts' (c :: text) := by
  -- The letter goes to the first piece, which may turn from nothing or from a dot into a part.
  cases spelt with
  | last piece =>
    obtain ⟨parts', longer⟩ := exists_piece (List.forall_mem_cons.mpr ⟨whole, piece.whole⟩)
    exact ⟨parts', .last longer⟩
  | next piece between further =>
    obtain ⟨front, longer⟩ := exists_piece (List.forall_mem_cons.mpr ⟨whole, piece.whole⟩)
    exact ⟨_, .next longer between further⟩

theorem exists_spells (text : List Char) : ∃ parts, Spells parts text := by
  induction text with
  | nil => exact ⟨[], .last .nothing⟩
  | cons c rest ih =>
    obtain ⟨parts, spelt⟩ := ih
    by_cases between : IsSeparator c
    · exact ⟨parts, .next .nothing between spelt⟩
    · exact spelt.cons_of_not_separator between

/-! ## What is read -/

/-- The text with slashes for all separators. -/
def slashed (text : List Char) : List Char := text.map fun c => if c = '\\' then '/' else c

theorem slashed_of_whole (whole : ∀ c ∈ text, ¬IsSeparator c) : slashed text = text := by
  have stays : text.map (fun c => if c = '\\' then '/' else c) = text.map id :=
    List.map_congr_left fun c member => if_neg fun same => whole c member (.inr same)
  rw [slashed, stays, List.map_id]

theorem slashed_append_cons {c : Char} (between : IsSeparator c) (rest : List Char) :
    slashed (text ++ c :: rest) = slashed text ++ '/' :: slashed rest := by
  rcases between with rfl | rfl <;> simp [slashed]

theorem Piece.splitOn_eq (piece : Piece parts text) : Text.splitOn '/' (slashed text) = [text] := by
  rw [slashed_of_whole piece.whole]
  exact Text.splitOn_of_not_mem fun member => piece.whole _ member (.inl rfl)

theorem Spells.significant_eq (spelt : Spells parts text) :
    Path.significant ((Text.splitOn '/' (slashed text)).map String.ofList) = parts := by
  induction spelt with
  | last piece =>
    rw [piece.splitOn_eq]
    exact piece.significant_eq
  | next piece between further ih =>
    rw [slashed_append_cons between, Text.splitOn_append, piece.splitOn_eq, List.map_append, Path.significant,
      List.filter_append]
    exact congrArg₂ _ piece.significant_eq ih

theorem Spells.parts_ofText {text : String} (spelt : Spells parts text.toList) :
    (Path.ofText (Text.replaceChar '\\' '/' text)).parts = parts := by
  have read := spelt.significant_eq
  rwa [slashed, ← String.toList_ofList (l := List.map _ _)] at read

theorem spells_iff {text : String} :
    Spells parts text.toList ↔ (Path.ofText (Text.replaceChar '\\' '/' text)).parts = parts := by
  refine ⟨Spells.parts_ofText, ?_⟩
  rintro rfl
  obtain ⟨parts, spelt⟩ := exists_spells text.toList
  rwa [spelt.parts_ofText]

/-- A text that does not begin with a separator. -/
def Relative (text : String) : Prop := ∀ c ∈ text.toList.head?, ¬IsSeparator c

theorem relative_of_head? {text : String} {c : Char} (first : text.toList.head? = some c) (whole : ¬IsSeparator c) :
    Relative text := by
  intro c' member
  rw [first] at member
  obtain rfl := Option.mem_some_iff.mp member
  exact whole

theorem Relative.anchor_ofText {text : String} (relative : Relative text) :
    (Path.ofText (Text.replaceChar '\\' '/' text)).anchor = .none := by
  rw [Path.ofText, Text.replaceChar, String.toList_ofList]
  dsimp only
  cases spelt : text.toList with
  | nil => rfl
  | cons c rest =>
    obtain ⟨noSlash, noBackslash⟩ := not_or.mp (relative c (by rw [spelt]; exact rfl))
    simp [Path.anchorOf, noSlash, noBackslash]

/-! ## Modules -/

theorem moduleOfParts?_eq_none_iff : moduleOfParts? parts = none ↔ configDirectory ∉ parts.drop 2 := by
  induction parts using moduleOfParts?.induct with
  | case1 vendor package directory rest inner found ih =>
    have further : configDirectory ∈ rest := by
      by_contra missing
      exact Option.some_ne_none _ (found.symm.trans (ih.mpr missing))
    simp [moduleOfParts?, found, further]
  | case2 vendor package rest none ih =>
    simp [moduleOfParts?, none]
  | case3 vendor package directory rest none other ih =>
    have missing : configDirectory ∉ rest := ih.mp none
    simp [moduleOfParts?, none, other, Ne.symm other, missing]
  | case4 parts short =>
    have few : parts.drop 2 = [] := by
      rcases parts with _ | ⟨vendor, _ | ⟨package, _ | ⟨directory, rest⟩⟩⟩
      · rfl
      · rfl
      · rfl
      · exact absurd rfl (short vendor package directory rest)
    rw [few]
    simp [moduleOfParts?]

theorem moduleOfParts?_last {vendor package : String} {rear : List String} (last : configDirectory ∉ rear) :
    moduleOfParts? (vendor :: package :: configDirectory :: rear) = some (vendor ++ "_" ++ package) := by
  have none : moduleOfParts? (package :: configDirectory :: rear) = none := moduleOfParts?_eq_none_iff.mpr last
  rw [moduleOfParts?, none]
  exact if_pos rfl

/-- A path names the module that the two parts before its last configuration directory tell, among those with
two parts before them, however it is written. A relative path without such a directory names none. -/
theorem moduleOfFile?_of_spells {text : String} (spelt : Spells parts text.toList) :
    (∀ front vendor package rear, parts = front ++ vendor :: package :: "etc" :: rear → "etc" ∉ rear →
      moduleOfFile? text = some (vendor ++ "_" ++ package)) ∧
    (Relative text → "etc" ∉ parts.drop 2 → moduleOfFile? text = none) := by
  rw [moduleOfFile?, Path.components, spelt.parts_ofText]
  constructor
  · rintro front vendor package rear rfl last
    have named : moduleOfParts? (vendor :: package :: "etc" :: rear) = _ := moduleOfParts?_last last
    split
    · exact moduleOfParts?_append named front
    · exact moduleOfParts?_append named (_ :: front)
  · intro relative missing
    rw [if_pos relative.anchor_ofText]
    exact moduleOfParts?_eq_none_iff.mpr missing

-- The slash in front of an absolute path counts as a part.
example : moduleOfFile? "/Shop/etc/di.xml" = some "/_Shop" := by decide +kernel

/-- Of two configuration directories, one in the other, the inner one tells the module. -/
theorem moduleOfFile?_of_spells_nested :
    Spells ["app", "Acme", "Shop", "etc", "etc", "di.xml"] "//app\\Acme/./Shop//etc\\etc/di.xml".toList ∧
      moduleOfFile? "//app\\Acme/./Shop//etc\\etc/di.xml" = some "Shop_etc" ∧
      Spells ["Shop", "etc", "di.xml"] ".\\Shop//etc/.\\di.xml".toList ∧
      moduleOfFile? ".\\Shop//etc/.\\di.xml" = none := by
  have nested : Spells ["app", "Acme", "Shop", "etc", "etc", "di.xml"]
      "//app\\Acme/./Shop//etc\\etc/di.xml".toList := spells_iff.mpr (by decide +kernel)
  have bare : Spells ["Shop", "etc", "di.xml"] ".\\Shop//etc/.\\di.xml".toList := spells_iff.mpr (by decide +kernel)
  refine ⟨nested, ?_, bare, ?_⟩
  · have named := (moduleOfFile?_of_spells nested).1 ["app", "Acme"] "Shop" "etc" ["di.xml"] rfl (by decide)
    exact named.trans (by decide +kernel)
  · have first : ".\\Shop//etc/.\\di.xml".toList.head? = some '.' := by decide +kernel
    exact (moduleOfFile?_of_spells bare).2 (relative_of_head? first (by decide)) (by decide)

end ReleaseImpact
