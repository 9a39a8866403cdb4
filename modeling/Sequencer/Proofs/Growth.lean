import Sequencer.Files.Tree
import Sequencer.Proofs.Stages

/-!
# What writing does to a file tree

Writing keeps every directory, and touches no other place than that of the file written, apart
from new directories (`Grows`). So a path that leads to a place goes on leading there, and a file
written is found again under its path until its own place is written anew.
-/

namespace Sequencer.FileTree

open Stage

/-- The second tree is the first after some writing: the files at these places may be other ones,
and there may be new directories. -/
structure Grows (written : Place → Prop) (t t' : FileTree) : Prop where
  directories : ∀ p, t.get? p = some .directory → t'.get? p = some .directory
  others : ∀ p, ¬ written p →
    t'.get? p = t.get? p ∨ t.get? p = none ∧ t'.get? p = some .directory

section

variable {written written' : Place → Prop} {t t' t'' : FileTree} {p : Place}

theorem Grows.refl (written : Place → Prop) (t : FileTree) : Grows written t t :=
  ⟨fun _ h => h, fun _ _ => .inl rfl⟩

theorem Grows.mono (h : Grows written t t') (hsub : ∀ p, written p → written' p) :
    Grows written' t t' :=
  ⟨h.directories, fun p hp => h.others p (mt (hsub p) hp)⟩

theorem Grows.trans (h : Grows written t t') (h' : Grows written t' t'') :
    Grows written t t'' := by
  refine ⟨fun p hp => h'.directories p (h.directories p hp), fun p hp => ?_⟩
  rcases h.others p hp with heq | ⟨hnone, hdir⟩
  · rcases h'.others p hp with heq' | ⟨hnone', hdir'⟩
    · exact .inl (heq'.trans heq)
    · exact .inr ⟨heq ▸ hnone', hdir'⟩
  · exact .inr ⟨hnone, h'.directories p hdir⟩

theorem Grows.text (h : Grows written t t') (hp : ¬ written p) {content : String}
    (hget : t.get? p = some (.text content)) : t'.get? p = some (.text content) := by
  rcases h.others p hp with heq | ⟨hnone, -⟩
  · rw [heq, hget]
  · rw [hget] at hnone
    cases hnone

/-! ## Paths -/

theorem Grows.follow (h : Grows written t t') {names : List String} {from' : Place} :
    t.follow from' names = .ok p → t'.follow from' names = .ok p := by
  induction names generalizing from' with
  | nil => exact id
  | cons name rest ih =>
    intro hfollow
    unfold FileTree.follow at hfollow ⊢
    cases hget : t.get? from' with
    | none =>
      rw [hget] at hfollow
      cases hfollow
    | some entry =>
      rw [hget] at hfollow
      cases entry with
      | directory =>
        rw [h.directories from' hget]
        dsimp only at hfollow ⊢
        split
        · rename_i hlong
          rw [if_pos hlong] at hfollow
          cases hfollow
        · rename_i hlong
          rw [if_neg hlong] at hfollow
          exact ih hfollow
      | text content => cases hfollow
      | binary => cases hfollow

theorem Grows.locate (h : Grows written t t') {path : Path} (hlocate : t.locate path = .ok p) :
    t'.locate path = .ok p := by
  unfold FileTree.locate at hlocate ⊢
  split
  · rename_i hzero
    rw [if_pos hzero] at hlocate
    cases hlocate
  · rename_i hzero
    rw [if_neg hzero] at hlocate
    split
    · rename_i hlong
      rw [if_pos hlong] at hlocate
      cases hlocate
    · rename_i hlong
      rw [if_neg hlong] at hlocate
      exact h.follow hlocate

theorem readText_of_get? {path : Path} {content : String} (hlocate : t.locate path = .ok p)
    (hget : t.get? p = some (.text content)) : t.readText path = .ok content := by
  refine bind_eq_ok_iff.mpr ⟨p, hlocate, ?_⟩
  simp only [hget]

/-! ## One change -/

theorem names_ne_nil (h : t.get? p ≠ some .directory) : p.names ≠ [] := by
  intro hnil
  exact h (if_pos hnil)

theorem grows_put (h : t.get? p ≠ some .directory) (e : FileEntry) :
    Grows (· = p) t (t.put p e) where
  directories q hq := by
    have hne : q ≠ p := by
      rintro rfl
      exact h hq
    rw [get?_put_of_ne t e hne, hq]
  others q hq := .inl (get?_put_of_ne t e hq)

theorem grows_put_directory (h : t.get? p = none) :
    Grows (fun _ => False) t (t.put p .directory) where
  directories q hq := by
    have hne : q ≠ p := by
      rintro rfl
      rw [h] at hq
      cases hq
    rw [get?_put_of_ne t _ hne, hq]
  others q _ := by
    by_cases hne : q = p
    · subst hne
      have hnames : q.names ≠ [] := names_ne_nil (by rw [h]; nofun)
      exact .inr ⟨h, get?_put_self t _ hnames⟩
    · exact .inl (get?_put_of_ne t _ hne)

theorem grows_appendAt (t : FileTree) (p : Place) (content : String) :
    Grows (· = p) t (t.appendAt p content) := by
  unfold appendAt
  by_cases h : t.get? p = some .directory
  · -- What is added to a directory is lost.
    rw [h]
    refine ⟨fun q hq => ?_, fun q hq => .inl (get?_put_of_ne t _ hq)⟩
    by_cases hne : q = p
    · subst hne
      by_cases hnames : q.names = []
      · exact if_pos hnames
      · exact get?_put_self t _ hnames
    · rw [get?_put_of_ne t _ hne, hq]
  · exact grows_put h _

end

/-! ## Opening and writing -/

section

variable {t t' : FileTree} {path : Path} {p : Place} {content : String}

theorem grows_makeDirectories (h : t.makeDirectories path = .ok t') :
    Grows (fun _ => False) t t' := by
  unfold makeDirectories at h
  generalize List.range (path.names.length + 1) = counts at h
  induction counts generalizing t with
  | nil =>
    cases h
    exact .refl _ _
  | cons count rest ih =>
    rw [List.foldlM_cons] at h
    obtain ⟨next, hnext, h⟩ := bind_eq_ok_iff.mp h
    refine Grows.trans ?_ (ih h)
    obtain ⟨q, -, hnext⟩ := bind_eq_ok_iff.mp hnext
    split at hnext
    · cases hnext
      exact .refl _ _
    · cases hnext
    · rename_i hnone
      cases hnext
      exact grows_put_directory hnone

theorem openFile_eq_ok {old : Option FileEntry} (h : t.openFile path = .ok (t', p, old)) :
    Grows (fun _ => False) t t' ∧ t'.locate path = .ok p ∧ t'.get? p = old ∧
      old ≠ some .directory := by
  unfold openFile at h
  obtain ⟨made, hmade, h⟩ := bind_eq_ok_iff.mp h
  obtain ⟨q, hq, h⟩ := bind_eq_ok_iff.mp h
  split at h
  · cases h
  · rename_i hother
    cases h
    exact ⟨grows_makeDirectories hmade, hq, rfl, hother⟩

/-- A file that was opened and then given another content. -/
theorem grows_openFile_put {opened : FileTree} {old : Option FileEntry}
    (h : t.openFile path = .ok (opened, p, old)) (e : FileEntry) :
    Grows (· = p) t (opened.put p e) ∧ (opened.put p e).locate path = .ok p ∧
      (opened.put p e).get? p = some e := by
  obtain ⟨hgrows, hlocate, hget, hold⟩ := openFile_eq_ok h
  rw [← hget] at hold
  have hput := grows_put hold e
  refine ⟨(hgrows.mono fun _ => False.elim).trans hput, hput.locate hlocate, ?_⟩
  exact get?_put_self opened e (names_ne_nil hold)

/-- A file that is written is found under its path, and nothing else is touched. -/
theorem write_eq_ok (h : t.write path content = .ok t') :
    ∃ p, Grows (· = p) t t' ∧ t'.locate path = .ok p ∧ t'.get? p = some (.text content) := by
  unfold write at h
  obtain ⟨⟨opened, p, old⟩, hopened, h⟩ := bind_eq_ok_iff.mp h
  cases h
  exact ⟨p, grows_openFile_put hopened _⟩

theorem append_eq_ok (h : t.append path content = .ok (t', p)) :
    Grows (· = p) t t' ∧ t'.locate path = .ok p := by
  unfold append at h
  obtain ⟨⟨opened, q, old⟩, hopened, h⟩ := bind_eq_ok_iff.mp h
  cases h
  obtain ⟨hgrows, hlocate, -⟩ := grows_openFile_put hopened (FileEntry.append content old)
  exact ⟨hgrows, hlocate⟩

end

/-! ## Files that are there -/

theorem FileEntry.append_ne_directory {old : Option FileEntry} (h : old ≠ some .directory)
    (content : String) : FileEntry.append content old ≠ .directory := by
  cases old with
  | none => nofun
  | some entry =>
    cases entry with
    | directory => exact absurd rfl h
    | text old => nofun
    | binary => nofun

theorem FileEntry.append_append {first : String} {old : Option FileEntry}
    (second : String) :
    append second (some (append first old)) = append (first ++ second) old := by
  cases old with
  | none => rfl
  | some entry =>
    cases entry with
    | directory => rfl
    | text content => simp [append, String.append_assoc]
    | binary => rfl

/-- There is a file at the place. -/
def HasFile (t : FileTree) (p : Place) : Prop := ∃ e, t.get? p = some e ∧ e ≠ .directory

section

variable {t t' : FileTree} {p q : Place}

theorem HasFile.ne_directory (h : t.HasFile p) : t.get? p ≠ some .directory := by
  obtain ⟨e, he, hne⟩ := h
  rw [he]
  exact fun heq => hne (Option.some.inj heq)

theorem HasFile.put (h : t.HasFile p) {e : FileEntry} (he : e ≠ .directory) (q : Place) :
    (t.put q e).HasFile p := by
  by_cases hpq : p = q
  · subst hpq
    exact ⟨e, get?_put_self t e (names_ne_nil h.ne_directory), he⟩
  · unfold HasFile
    rw [get?_put_of_ne t e hpq]
    exact h

theorem HasFile.of_grows (h : t.HasFile p) (hgrows : Grows (fun _ => False) t t') :
    t'.HasFile p := by
  obtain ⟨e, he, hne⟩ := h
  rcases hgrows.others p not_false with heq | ⟨hnone, -⟩
  · exact ⟨e, heq.trans he, hne⟩
  · rw [he] at hnone
    cases hnone

theorem HasFile.appendAt (h : t.HasFile p) (q : Place) (content : String) :
    (t.appendAt q content).HasFile p := by
  by_cases hpq : p = q
  · subst hpq
    exact h.put (FileEntry.append_ne_directory h.ne_directory content) p
  · unfold HasFile FileTree.appendAt
    rw [get?_put_of_ne t _ hpq]
    exact h

/-- A file that text is added to is there, and so are all that were there. -/
theorem hasFile_of_append {path : Path} {content : String}
    (h : t.append path content = .ok (t', p)) :
    t'.HasFile p ∧ t'.get? p = some (FileEntry.append content (t.get? p)) ∧
      ∀ q, t.HasFile q → t'.HasFile q := by
  unfold append at h
  obtain ⟨⟨opened, place, old⟩, hopened, h⟩ := Stage.bind_eq_ok_iff.mp h
  cases h
  obtain ⟨hgrows, -, hget, hold⟩ := openFile_eq_ok hopened
  have hentry := FileEntry.append_ne_directory hold content
  -- Opening the file has not changed what was there.
  have hbefore : t.get? p = old := by
    rcases hgrows.others p not_false with heq | ⟨-, hdirectory⟩
    · exact heq.symm.trans hget
    · exact absurd (hget.symm.trans hdirectory) hold
  rw [← hget] at hold
  have hput := get?_put_self opened (FileEntry.append content old) (names_ne_nil hold)
  refine ⟨⟨_, hput, hentry⟩, by rw [hbefore]; exact hput, fun q hq => ?_⟩
  exact (hq.of_grows hgrows).put hentry p

theorem HasFile.append_nothing {t : FileTree} {p : Place} (h : t.HasFile p) :
    some (FileEntry.append "" (t.get? p)) = t.get? p := by
  obtain ⟨e, he, hne⟩ := h
  rw [he]
  cases e with
  | directory => exact absurd rfl hne
  | text content => simp [FileEntry.append]
  | binary => rfl

end

end Sequencer.FileTree
