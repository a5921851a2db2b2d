/-
  Proofs/Storage/Changes.lean --- what operations on files change, and what they leave.

  Making directories adds directories and nothing else, and writing a file
  changes what is at one place.  Neither takes a directory away, so a path that
  leads to a place goes on leading there, and a text that was written is read
  back until something is written at its place again.
-/
import TypeProjection.Storage.FileSystem

set_option autoImplicit false

namespace TypeProjection.Storage.FileSystem

variable {fs fs' fs'' : FileSystem} {path path' : Path} {place place' : Place} {text : String}

/-! ## Where paths lead -/

/-- A path leads to a place in a directory that is there. -/
def LeadsTo (fs : FileSystem) (path : Path) (place : Place) : Prop :=
  fs.locate path = .ok (.entry place)

/-- The last step of a path is the name of the place that it leads to. -/
theorem LeadsTo.getLast?_eq (h : fs.LeadsTo path place) : place.getLast? = path.steps.getLast? := by
  unfold LeadsTo locate at h
  split at h
  · cases h
  dsimp only at h
  split at h
  · split at h <;> cases h
  rename_i last hlast
  split at h
  · cases h
  unfold targetIn at h
  split at h
  · cases h
  split at h
  · cases h
  · cases h
    rw [hlast, List.getLast?_concat]

theorem LeadsTo.ne_nil (h : fs.LeadsTo path place) : place ≠ [] := by
  rintro rfl
  have hnone : path.steps = [] := List.getLast?_eq_none_iff.1 h.getLast?_eq.symm
  unfold LeadsTo locate at h
  simp only [hnone, List.getLast?_nil] at h
  split at h
  · cases h
  · split at h <;> cases h

/-- All directories of a file system are still there in another one. -/
structure KeepsDirectories (fs fs' : FileSystem) : Prop where
  /-- The directory that is worked in is the same. -/
  workingDirectory : fs'.workingDirectory = fs.workingDirectory
  /-- What was a directory is one. -/
  directories : ∀ place, fs.node? place = some .directory → fs'.node? place = some .directory

namespace KeepsDirectories

theorem follow_eq (h : fs.KeepsDirectories fs') {step : String}
    (hfollow : fs.follow place step = .ok place') : fs'.follow place step = .ok place' := by
  unfold follow at hfollow ⊢
  split at hfollow
  · rw [if_pos ‹_›]
    exact hfollow
  split at hfollow
  · rw [if_neg ‹_›, if_pos ‹_›]
    exact hfollow
  split at hfollow
  · cases hfollow
  rw [if_neg ‹_›, if_neg ‹_›, if_neg ‹_›]
  split at hfollow
  · cases hfollow
  · cases hfollow
  · rename_i hnode
    rw [h.directories _ hnode]
    exact hfollow

theorem followAll_eq (h : fs.KeepsDirectories fs') {steps : List String}
    (hfollow : fs.followAll place steps = .ok place') :
    fs'.followAll place steps = .ok place' := by
  induction steps generalizing place with
  | nil => exact hfollow
  | cons step steps ih =>
    rw [followAll] at hfollow ⊢
    split at hfollow
    · cases hfollow
    · rename_i next hnext
      rw [h.follow_eq hnext]
      exact ih hfollow

theorem locate_eq (h : fs.KeepsDirectories fs') {target : Target}
    (hlocate : fs.locate path = .ok target) : fs'.locate path = .ok target := by
  unfold locate at hlocate ⊢
  rw [h.workingDirectory]
  split at hlocate
  · cases hlocate
  dsimp only at hlocate ⊢
  split at hlocate
  · exact hlocate
  split at hlocate
  · cases hlocate
  · rename_i parent hparent
    rw [h.followAll_eq hparent]
    exact hlocate

theorem leadsTo (h : fs.KeepsDirectories fs') (hleads : fs.LeadsTo path place) :
    fs'.LeadsTo path place :=
  h.locate_eq hleads

end KeepsDirectories

/-! ## Writing files -/

/-- A file is written at the place that its path leads to, unless a directory is there. -/
theorem writeText_eq_ok_iff :
    fs.writeText path text = .ok fs' ↔
      ∃ place, fs.LeadsTo path place ∧ fs.node? place ≠ some .directory ∧
        path.endsWithSlash = false ∧ fs' = fs.put place (.file (.text text)) := by
  unfold writeText LeadsTo
  cases hlocate : fs.locate path with
  | error fault => simp
  | ok target =>
    cases target with
    | directory => simp
    | entry place =>
      dsimp only
      cases hnode : fs.node? place with
      | none => cases path.endsWithSlash <;> simp [hnode, eq_comm]
      | some node =>
        cases node with
        | directory => simp [hnode]
        | file content => cases path.endsWithSlash <;> simp [hnode, eq_comm]

theorem keepsDirectories_of_writeText (h : fs.writeText path text = .ok fs') :
    fs.KeepsDirectories fs' := by
  obtain ⟨place, hleads, hfile, -, rfl⟩ := writeText_eq_ok_iff.1 h
  refine ⟨rfl, fun place' hplace' => ?_⟩
  have hne : place' ≠ place := fun heq => hfile (heq ▸ hplace')
  rw [node?_put hleads.ne_nil, if_neg hne]
  exact hplace'

/-- Writing a file leaves everything at other places as it was. -/
theorem node?_of_writeText (h : fs.writeText path text = .ok fs')
    (hplace : ¬ fs'.LeadsTo path place) : fs'.node? place = fs.node? place := by
  have hkeeps := keepsDirectories_of_writeText h
  obtain ⟨written, hleads, -, -, rfl⟩ := writeText_eq_ok_iff.1 h
  have hne : place ≠ written := fun heq => hplace (heq ▸ hkeeps.leadsTo hleads)
  rw [node?_put hleads.ne_nil, if_neg hne]

/-- What was written is read back. -/
theorem readText_of_writeText (h : fs.writeText path text = .ok fs') :
    fs'.readText path = .ok text := by
  have hkeeps := keepsDirectories_of_writeText h
  obtain ⟨place, hleads, -, hslash, rfl⟩ := writeText_eq_ok_iff.1 h
  have hlocate : (fs.put place (.file (.text text))).locate path = .ok (.entry place) :=
    hkeeps.leadsTo hleads
  have hnode : (fs.put place (.file (.text text))).node? place = some (.file (.text text)) := by
    rw [node?_put hleads.ne_nil, if_pos rfl]
  simp [readText, hlocate, hnode, hslash]

/-- A text that can be read depends on one place only. -/
theorem readText_of_node?_eq (h : fs.KeepsDirectories fs')
    (hnode : ∀ place, fs.LeadsTo path place → fs'.node? place = fs.node? place)
    (hread : fs.readText path = .ok text) : fs'.readText path = .ok text := by
  unfold readText at hread ⊢
  split at hread
  · cases hread
  · cases hread
  · rename_i place hplace
    rw [h.locate_eq hplace]
    dsimp only
    rw [hnode place hplace]
    exact hread

/-! ## Making directories -/

/-- A file system has directories that another one has not, and is the same otherwise. -/
structure AddsDirectories (fs fs' : FileSystem) : Prop where
  /-- The directory that is worked in is the same. -/
  workingDirectory : fs'.workingDirectory = fs.workingDirectory
  /-- Nothing is different but that there may be a directory where nothing was. -/
  nodes : ∀ place, fs'.node? place = fs.node? place ∨
    (fs.node? place = none ∧ fs'.node? place = some .directory)

namespace AddsDirectories

theorem refl (fs : FileSystem) : fs.AddsDirectories fs :=
  ⟨rfl, fun _ => .inl rfl⟩

theorem trans (h : fs.AddsDirectories fs') (h' : fs'.AddsDirectories fs'') :
    fs.AddsDirectories fs'' := by
  refine ⟨h'.workingDirectory.trans h.workingDirectory, fun place => ?_⟩
  rcases h.nodes place with hsame | ⟨hnone, hdirectory⟩
  · rcases h'.nodes place with hsame' | ⟨hnone', hdirectory'⟩
    · exact .inl (hsame'.trans hsame)
    · exact .inr ⟨hsame ▸ hnone', hdirectory'⟩
  · rcases h'.nodes place with hsame' | ⟨hnone', -⟩
    · exact .inr ⟨hnone, hsame'.trans hdirectory⟩
    · rw [hdirectory] at hnone'
      cases hnone'

end AddsDirectories

theorem addsDirectories_of_makeDirectory (h : fs.makeDirectory path = .ok fs') :
    fs.AddsDirectories fs' := by
  unfold makeDirectory at h
  split at h
  · cases h
  · cases h
  · rename_i place hleads
    split at h
    · cases h
    · rename_i hnone
      cases h
      refine ⟨rfl, fun place' => ?_⟩
      rw [node?_put (LeadsTo.ne_nil hleads)]
      by_cases heq : place' = place
      · rw [if_pos heq, heq]
        exact .inr ⟨hnone, rfl⟩
      · rw [if_neg heq]
        exact .inl rfl

theorem addsDirectories_makeFrom (fs : FileSystem) (paths : List Path) :
    fs.AddsDirectories (fs.makeFrom paths).1 := by
  induction paths with
  | nil => exact .refl fs
  | cons path ancestors ih =>
    rw [makeFrom_cons]
    split
    · exact .refl fs
    split
    · rename_i made hmade
      exact addsDirectories_of_makeDirectory hmade
    · split
      · rename_i around fault haround
        rw [haround] at ih
        exact ih
      · rename_i around haround
        rw [haround] at ih
        split
        · rename_i made hmade
          exact ih.trans (addsDirectories_of_makeDirectory hmade)
        · exact ih
    · exact .refl fs

/-- Making a directory with all those around it adds directories and nothing else, also if it
fails. -/
theorem addsDirectories_makeDirectories (fs : FileSystem) (path : Path) :
    fs.AddsDirectories (fs.makeDirectories path).1 :=
  addsDirectories_makeFrom fs path.selfAndAncestors

end TypeProjection.Storage.FileSystem
