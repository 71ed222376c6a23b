import ReleaseImpact.Proofs.MergedMaps
import ReleaseImpact.Settings.Load

/-!
In what a document says, no mapping has two values under one name. Main statements:

- `Value.distinct_opened`: to look inside of a value does not change that.
- `Make.makes_fillAll`: it holds of all containers, whatever mappings take over from each other.
- `load_distinct` and `SettingsFile.read_distinct`: it holds of documents and of files.
-/

namespace ReleaseImpact

namespace Value

mutual

/-- No map in a value has two entries under one name. -/
def Distinct : Value → Prop
  | .scalar _ => True
  | .list items => DistinctItems items
  | .map entries => (names entries).Nodup ∧ DistinctEntries entries
  | .tuple items => DistinctItems items
  | .set _ => True
  | .loop _ body => body.Distinct
  | .again _ => True

def DistinctItems : List Value → Prop
  | [] => True
  | v :: rest => v.Distinct ∧ DistinctItems rest

def DistinctEntries : List (Scalar × Value) → Prop
  | [] => True
  | (_, v) :: rest => v.Distinct ∧ DistinctEntries rest

end

theorem distinctItems_iff {items : List Value} : DistinctItems items ↔ ∀ v ∈ items, v.Distinct := by
  induction items with
  | nil => simp [DistinctItems]
  | cons v rest ih => rw [DistinctItems, List.forall_mem_cons, ih]

theorem distinctEntries_iff {entries : List (Scalar × Value)} :
    DistinctEntries entries ↔ ∀ e ∈ entries, e.2.Distinct := by
  induction entries with
  | nil => simp [DistinctEntries]
  | cons e rest ih => rw [DistinctEntries, List.forall_mem_cons, ih]

theorem names_fillEntries (name : Nat) (whole : Value) (entries : List (Scalar × Value)) :
    names (fillEntries name whole entries) = names entries := by
  induction entries with
  | nil => rfl
  | cons e rest ih => rw [fillEntries, names_cons, names_cons, ih]

mutual

theorem distinct_fill (name : Nat) {whole : Value} (outer : whole.Distinct) :
    (v : Value) → v.Distinct → (fill name whole v).Distinct
  | .scalar _, inner => by rwa [fill]
  | .list items, inner => by
    rw [Distinct] at inner
    rw [fill, Distinct]
    exact distinctItems_fill name outer items inner
  | .map entries, inner => by
    rw [Distinct] at inner
    rw [fill, Distinct, names_fillEntries]
    exact ⟨inner.1, distinctEntries_fill name outer entries inner.2⟩
  | .tuple items, inner => by
    rw [Distinct] at inner
    rw [fill, Distinct]
    exact distinctItems_fill name outer items inner
  | .set _, inner => by rwa [fill]
  | .loop n body, inner => by
    rw [fill]
    split
    · exact inner
    · rw [Distinct] at inner ⊢
      exact distinct_fill name outer body inner
  | .again n, inner => by
    rw [fill]
    split
    · exact outer
    · exact inner

theorem distinctItems_fill (name : Nat) {whole : Value} (outer : whole.Distinct) :
    (items : List Value) → DistinctItems items → DistinctItems (fillItems name whole items)
  | [], inner => by rwa [fillItems]
  | v :: rest, inner => by
    rw [DistinctItems] at inner
    rw [fillItems, DistinctItems]
    exact ⟨distinct_fill name outer v inner.1, distinctItems_fill name outer rest inner.2⟩

theorem distinctEntries_fill (name : Nat) {whole : Value} (outer : whole.Distinct) :
    (entries : List (Scalar × Value)) → DistinctEntries entries →
      DistinctEntries (fillEntries name whole entries)
  | [], inner => by rwa [fillEntries]
  | (_, v) :: rest, inner => by
    rw [DistinctEntries] at inner
    rw [fillEntries, DistinctEntries]
    exact ⟨distinct_fill name outer v inner.1, distinctEntries_fill name outer rest inner.2⟩

end

theorem distinct_opened {v : Value} (distinct : v.Distinct) : v.opened.Distinct := by
  cases v with
  | loop name body =>
    have inner : body.Distinct := by rwa [Distinct] at distinct
    exact distinct_fill name distinct body inner
  | _ => exact distinct

theorem distinct_of_mem {k : Scalar} {v : Value} {entries : List (Scalar × Value)} (distinct : (map entries).Distinct)
    (member : (k, v) ∈ entries) : v.Distinct := by
  rw [Distinct] at distinct
  exact distinctEntries_iff.mp distinct.2 _ member

end Value

namespace Yaml

/-! ## Containers -/

/-- The keys of entries that are texts. -/
def entryNames (entries : List Entry) : List String := entries.filterMap fun e => e.key.text?

theorem names_map_entries (entries : List Entry) (valueOf : Entry → Value) :
    names (entries.map fun e => (e.key, valueOf e)) = entryNames entries := by
  simp only [names, entryNames, List.filterMap_map, Function.comp_def]

namespace Make

theorem isSameKey_of_text {g : Graph} {d e : Entry} {name : String} (first : d.key = .text name)
    (second : e.key = .text name) : isSameKey g d e = true := by
  simp [isSameKey, first, second, sameKey_refl]

theorem nodup_putEntry {g : Graph} {e : Entry} {entries : List Entry} (nodup : (entryNames entries).Nodup) :
    (entryNames (putEntry g e entries)).Nodup ∧
      ∀ name ∈ entryNames (putEntry g e entries), name ∈ entryNames entries ∨ e.key = .text name := by
  induction entries with
  | nil =>
    cases named : e.key.text? <;> simp [putEntry, entryNames, named, ← Scalar.text?_eq_some_iff]
  | cons d rest ih =>
    rw [putEntry]
    split
    · exact ⟨nodup, fun name known => .inl known⟩
    · next other =>
      cases named : d.key.text? with
      | none =>
        have same (es : List Entry) : entryNames (d :: es) = entryNames es := by simp [entryNames, named]
        rw [same] at nodup ⊢
        rw [same]
        exact ih nodup
      | some first =>
        have same (es : List Entry) : entryNames (d :: es) = first :: entryNames es := by simp [entryNames, named]
        rw [same, List.nodup_cons] at nodup
        obtain ⟨nodup', known⟩ := ih nodup.2
        rw [same, same, List.nodup_cons]
        refine ⟨⟨fun again => ?_, nodup'⟩, fun name member => ?_⟩
        · rcases known first again with old | new
          · exact nodup.1 old
          · exact other (isSameKey_of_text (Scalar.text?_eq_some_iff.mp named) new)
        · rcases List.mem_cons.mp member with rfl | later
          · exact .inl List.mem_cons_self
          · exact (known name later).imp_left (List.mem_cons_of_mem _)

/-- No mapping that has been made has two entries under one name. -/
def Sound (s : Making) : Prop :=
  ∀ place entries, s.made.getD place none = some (.map entries) → (entryNames entries).Nodup

variable {α β : Type} {sort : α → Prop} {sort' : β → Prop}

/-- What is made is of a sort, and all mappings made so far stay sound. -/
def Makes (m : Make α) (sort : α → Prop) : Prop :=
  ∀ s a s', Sound s → m.run s = .ok (a, s') → Sound s' ∧ sort a

theorem Makes.pure {a : α} (fits : sort a) : Makes (pure a) sort := by
  intro s a' s' sound ran
  cases ran
  exact ⟨sound, fits⟩

theorem Makes.bind {m : Make α} {next : α → Make β} (first : Makes m sort) (later : ∀ a, sort a → Makes (next a) sort') :
    Makes (m >>= next) sort' := by
  intro s b s' sound ran
  rw [StateT.run_bind] at ran
  cases ran' : m.run s with
  | error f =>
    rw [ran'] at ran
    cases ran
  | ok r =>
    rw [ran'] at ran
    obtain ⟨a, mid⟩ := r
    obtain ⟨sound', fits⟩ := first s a mid sound ran'
    exact later a fits mid b s' sound' ran

theorem Makes.throw (f : Fault) : Makes (throw f : Make α) sort := by
  intro s a s' _ ran
  cases ran

theorem makes_get : Makes get fun _ => True := by
  intro s a s' sound ran
  cases ran
  exact ⟨sound, trivial⟩

theorem makes_modify {change : Making → Making} (kept : ∀ s, (change s).made = s.made) :
    Makes (modify change) fun _ => True := by
  intro s a s' sound ran
  cases ran
  refine ⟨?_, trivial⟩
  unfold Sound
  rw [kept]
  exact sound

theorem makes_put {place : Nat} {c : Content} (sound : ∀ entries, c = .map entries → (entryNames entries).Nodup) :
    Makes (put place c) fun _ => True := by
  intro s a s' sound' ran
  cases ran
  refine ⟨fun place' entries found => ?_, trivial⟩
  rw [Array.getD_eq_getD_getElem?] at found
  dsimp only at found
  rw [Array.getElem?_setIfInBounds] at found
  split at found
  · split at found
    · exact sound entries (Option.some.inj found)
    · cases found
  · rw [← Array.getD_eq_getD_getElem?] at found
    exact sound' place' entries found

theorem Makes.foldlM {step : β → α → Make β} {items : List α} {start : β} (fits : sort' start)
    (each : ∀ b a, sort' b → Makes (step b a) sort') : Makes (items.foldlM step start) sort' := by
  induction items generalizing start with
  | nil => exact .pure fits
  | cons a rest ih => exact .bind (each start a fits) fun b fits' => ih fits'

theorem Makes.forM {step : α → Make PUnit} {items : List α} (each : ∀ a, Makes (step a) fun _ => True) :
    Makes (items.forM step) fun _ => True := by
  induction items with
  | nil => exact .pure trivial
  | cons a rest ih => exact .bind (each a) fun _ _ => ih

theorem Makes.mapM {step : α → Make β} {items : List α} (each : ∀ a, Makes (step a) fun _ => True) :
    Makes (items.mapM step) fun _ => True := by
  rw [← List.mapM'_eq_mapM]
  induction items with
  | nil => exact .pure trivial
  | cons a rest ih => exact .bind (each a) fun _ _ => .bind ih fun _ _ => .pure trivial

theorem makes_content? (place : Nat) : Makes (content? place) fun _ => True :=
  .bind makes_get fun _ _ => .pure trivial

theorem makes_cell (place : Nat) : Makes (cell place) fun _ => True :=
  .bind makes_get fun _ _ => .pure trivial

theorem makes_text (budget : Nat) (inMapping : Bool) (place : Nat) :
    Makes (text budget inMapping place) fun _ => True := by
  induction budget generalizing inMapping place with
  | zero => exact .throw _
  | succ budget ih =>
    rw [text]
    refine .bind (makes_cell place) fun c _ => ?_
    split
    · exact .pure trivial
    · exact .throw _
    · refine .bind makes_get fun s _ => ?_
      dsimp only
      split
      · exact ih _ _
      · exact .throw _

theorem makes_make (place : Nat) : Makes (make place) fun _ => True := by
  rw [make]
  refine .bind (makes_content? place) fun found _ => ?_
  split
  · exact .pure trivial
  · refine .bind (makes_cell place) fun c _ => ?_
    dsimp only
    split
    · next empty container =>
      refine .bind (makes_put fun entries same => ?_) fun _ _ => makes_modify fun _ => rfl
      subst same
      unfold emptyContainer? at container
      split at container <;> cases container
      exact List.nodup_nil
    · split
      · exact .throw _
      · refine .bind makes_get fun s _ => .bind (makes_text _ _ _) fun r _ => ?_
        split
        · refine makes_put fun entries same => ?_
          cases same
        · exact .throw _

theorem makes_entries (place : Nat) : Makes (entries place) fun es => (entryNames es).Nodup := by
  rw [entries]
  refine .bind (makes_cell place) fun c _ => ?_
  split
  · refine .bind makes_get fun s _ => ?_
    split
    · exact .throw _
    · refine .bind (makes_modify fun _ => rfl) fun _ _ => .foldlM List.nodup_nil fun found e nodup => ?_
      refine .bind (makes_make e.1) fun _ _ => .bind (makes_content? e.1) fun c _ => ?_
      split
      · exact .bind (makes_make e.2) fun _ _ => .pure (nodup_putEntry nodup).1
      · exact .throw _
  · exact .throw _

theorem makes_pairs (place : Nat) : Makes (pairs place) fun _ => True := by
  rw [pairs]
  refine .bind (makes_cell place) fun c _ => ?_
  split
  · refine .mapM fun item => .bind (makes_cell item) fun c _ => ?_
    split
    · exact .bind (makes_make _) fun _ _ => .bind (makes_make _) fun _ _ => .pure trivial
    · exact .throw _
  · exact .throw _

theorem makes_fill (place : Nat) : Makes (fill place) fun _ => True := by
  rw [fill]
  refine .bind (makes_cell place) fun c _ => ?_
  split
  · refine .bind (makes_cell place) fun c _ => ?_
    split
    · exact .bind (.forM makes_make) fun _ _ => makes_put nofun
    · exact .throw _
  · refine .bind (makes_entries place) fun es nodup => makes_put fun entries same => ?_
    cases same
    exact nodup
  · exact .bind (makes_entries place) fun _ _ => makes_put nofun
  · exact .bind (makes_pairs place) fun _ _ => makes_put nofun

theorem makes_fillAll (budget : Nat) : Makes (fillAll budget) fun _ => True := by
  induction budget with
  | zero => exact .pure trivial
  | succ budget ih =>
    rw [fillAll]
    refine .bind makes_get fun s _ => ?_
    split
    · exact .pure trivial
    · exact .bind (makes_modify fun _ => rfl) fun _ _ => .bind (makes_fill _) fun _ _ => ih

end Make

/-! ## Documents -/

theorem bind_eq_ok {α β : Type} {t : Except Fault α} {next : α → Except Fault β} {b : β}
    (ended : t >>= next = .ok b) : ∃ a, t = .ok a ∧ next a = .ok b := by
  cases t with
  | error f => cases ended
  | ok a => exact ⟨a, rfl, ended⟩

theorem nodup_contents {g : Graph} {root : Nat} {contents : Array (Option Content)}
    (made : g.contents root = .ok contents) {place : Nat} {entries : List Entry}
    (found : contents.getD place none = some (.map entries)) : (entryNames entries).Nodup := by
  have makes : Make.Makes (do Make.make root; Make.fillAll (g.cells.size + 1)) fun _ => True :=
    .bind (Make.makes_make root) fun _ _ => Make.makes_fillAll _
  unfold Graph.contents at made
  dsimp only at made
  obtain ⟨⟨u, s⟩, ran, rest⟩ := bind_eq_ok made
  cases rest
  refine (makes _ u s ?_ ran).1 place entries found
  intro place' entries' there
  simp only [Array.getD_eq_getD_getElem?, Array.getElem?_replicate] at there
  split at there <;> cases there

theorem distinct_closed (name : Nat) {v : Value} (distinct : v.Distinct) : (closed name v).Distinct := by
  unfold closed
  split
  · exact distinct
  · rwa [Value.Distinct]

theorem distinct_valueAt {contents : Array (Option Content)}
    (sound : ∀ place entries, contents.getD place none = some (.map entries) → (entryNames entries).Nodup)
    (budget : Nat) (outside : List Nat) (place : Nat) : (valueAt contents budget outside place).Distinct := by
  induction budget generalizing outside place with
  | zero => rw [valueAt, Value.Distinct]; trivial
  | succ budget ih =>
    rw [valueAt]
    dsimp only
    split
    · rw [Value.Distinct]; trivial
    · split
      · rw [Value.Distinct]; trivial
      · rw [Value.Distinct]; trivial
      · refine distinct_closed _ ?_
        rw [Value.Distinct, Value.distinctItems_iff]
        intro v member
        obtain ⟨p, -, rfl⟩ := List.mem_map.mp member
        exact ih _ p
      · refine distinct_closed _ ?_
        rw [Value.Distinct, Value.distinctItems_iff]
        intro v member
        obtain ⟨⟨p, i⟩, -, rfl⟩ := List.mem_map.mp member
        refine distinct_closed _ ?_
        rw [Value.Distinct, Value.distinctItems_iff]
        simp [ih]
      · next entries found =>
        refine distinct_closed _ ?_
        rw [Value.Distinct, names_map_entries, Value.distinctEntries_iff]
        refine ⟨sound place entries found, fun e member => ?_⟩
        obtain ⟨d, -, rfl⟩ := List.mem_map.mp member
        exact ih _ d.value
      · rw [Value.Distinct]; trivial

theorem load_distinct {source : Source} {v : Value} (loaded : load source = .ok v) : v.Distinct := by
  unfold load at loaded
  obtain ⟨found, parsed, rest⟩ := bind_eq_ok loaded
  split at rest
  · obtain ⟨contents, made, rest⟩ := bind_eq_ok rest
    cases rest
    exact distinct_valueAt (fun _ _ => nodup_contents made) _ _ _
  · cases rest
    rw [Value.Distinct]
    trivial

end Yaml

namespace SettingsFile

theorem read_distinct {fs : FileSystem} {path : Path} {entries : List (Scalar × Value)}
    (said : read fs path = .ok entries) : (Value.map entries).Distinct := by
  have empty : (Value.map []).Distinct := by
    rw [Value.Distinct]
    exact ⟨List.nodup_nil, trivial⟩
  unfold read at said
  split at said
  · cases said
  · cases said
    exact empty
  · split at said
    · unfold parse at said
      split at said
      · cases said
      · next loaded =>
        cases said
        cases load : Yaml.load _ with
        | error fault =>
          rw [load] at loaded
          cases loaded
        | ok v =>
          rw [load] at loaded
          have distinct := Value.distinct_opened (Yaml.load_distinct load)
          rwa [Except.ok.inj loaded] at distinct
      · split at said
        · cases said
          exact empty
        · cases said
    · cases said

end SettingsFile

end ReleaseImpact
