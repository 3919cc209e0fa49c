import CiVariables.Files

/-!
# A file is read as it was written

A path leads to the place that it led to before the file there was written, since no directory is
lost by writing (`Files.place_put`), so what is read under it are the bytes that were written
(`Files.read_of_write`).
-/

namespace CiVariables.Files

variable {files written : Files} {path : String} {bytes : List UInt8}

/-- The files with one of them replaced, or added. -/
def put (files : Files) (p : Place) (bytes : List UInt8) : Files :=
  { files with contents := files.contents.filter (fun (q, _) => q != p) ++ [(p, bytes)] }

/-- What is written is at the place of its path, which is no directory. -/
theorem write_cases (h : files.write path bytes = .ok written) :
    ∃ p, files.place path = .ok p ∧ files.look p ≠ .directory ∧ written = files.put p bytes := by
  unfold write at h
  cases hplace : files.place path with
  | error o => simp [hplace] at h
  | ok p =>
    simp only [hplace] at h
    refine ⟨p, rfl, ?_⟩
    cases hlook : files.look p with
    | directory => simp [hlook] at h
    | file _ =>
      simp only [hlook, Except.ok.injEq] at h
      exact ⟨nofun, h.symm⟩
    | nothing =>
      simp only [hlook, Except.ok.injEq] at h
      exact ⟨nofun, h.symm⟩

theorem lookup_filter_self (contents : List (Place × List UInt8)) (p : Place) :
    (contents.filter fun (r, _) => r != p).lookup p = none := by
  rw [List.lookup_eq_none_iff]
  intro file hfile
  have hne : file.1 ≠ p := by simpa using (List.mem_filter.1 hfile).2
  exact bne_iff_ne.2 hne.symm

theorem lookup_filter_of_ne (contents : List (Place × List UInt8)) {p q : Place} (h : q ≠ p) :
    (contents.filter fun (r, _) => r != p).lookup q = contents.lookup q := by
  induction contents with
  | nil => rfl
  | cons file rest ih =>
    obtain ⟨r, bs⟩ := file
    by_cases hr : r = p
    · have hother : (q == r) = false := beq_false_of_ne (hr ▸ h)
      rw [List.filter_cons_of_neg (by simpa using hr), ih, List.lookup_cons, hother]
    · rw [List.filter_cons_of_pos (by simpa using hr), List.lookup_cons, List.lookup_cons, ih]

/-- Writing a file leaves all others. -/
theorem lookup_put_of_ne {p q : Place} (h : q ≠ p) :
    (files.put p bytes).contents.lookup q = files.contents.lookup q := by
  have hlast : (q == p) = false := beq_false_of_ne h
  rw [put, List.lookup_append, lookup_filter_of_ne _ h, List.lookup_cons, hlast]
  exact Option.or_none

/-- A file that was written can be read. -/
theorem look_put_self (files : Files) (p : Place) (bytes : List UInt8) :
    (files.put p bytes).look p = .file bytes := by
  rw [look, put, List.lookup_append, lookup_filter_self, List.lookup_cons, beq_self_eq_true]
  rfl

/-- A directory stays one. -/
theorem isDirectory_put {p q : Place} (h : files.isDirectory q = true) :
    (files.put p bytes).isDirectory q = true := by
  simp only [isDirectory, put, Bool.or_eq_true] at h ⊢
  -- A directory that is there because of the file that is replaced is there because of the new one.
  refine h.imp_right fun h => ?_
  obtain ⟨⟨r, bs⟩, hfile, hr⟩ := List.any_eq_true.1 h
  refine List.any_eq_true.2 ?_
  by_cases heq : r = p
  · exact ⟨(p, bytes), by simp, heq ▸ hr⟩
  · exact ⟨(r, bs), by simp [hfile, heq], hr⟩

theorem look_put_of_directory {p q : Place} (hp : files.look p ≠ .directory)
    (hq : files.look q = .directory) : (files.put p bytes).look q = .directory := by
  have hne : q ≠ p := fun heq => hp (heq ▸ hq)
  unfold look at hq ⊢
  rw [lookup_put_of_ne hne]
  cases hlookup : files.contents.lookup q with
  | some bs => simp [hlookup] at hq
  | none =>
    simp only [hlookup] at hq
    by_cases hdirectory : files.isDirectory q
    · simp only [isDirectory_put hdirectory, if_true]
    · rw [if_neg hdirectory] at hq
      cases hq

/-- Writing a file leaves every path that does not end there. -/
theorem enter_put {p q r : Place} {parts : List String} (hp : files.look p ≠ .directory)
    (h : files.enter q parts = .ok r) : (files.put p bytes).enter q parts = .ok r := by
  induction parts generalizing q with
  | nil => exact h
  | cons part rest ih =>
    unfold enter at h ⊢
    split at h
    · cases h
    · next hlength =>
      rw [if_neg hlength]
      cases hlook : files.look (q.enter part) with
      | directory =>
        rw [look_put_of_directory hp hlook]
        simp only [hlook] at h
        exact ih h
      | file _ => simp [hlook] at h
      | nothing => simp [hlook] at h

/-- The way of a path goes through directories only, so writing a file leaves it open. -/
theorem place_put {p r : Place} (hp : files.look p ≠ .directory) (h : files.place path = .ok r) :
    (files.put p bytes).place path = .ok r := by
  unfold place at h ⊢
  simp only at h ⊢
  split at h
  · cases h
  · next hlength =>
    rw [if_neg hlength]
    cases henter : files.enter (Place.start path) (Path.parts path).dropLast with
    | error o => simp [henter] at h
    | ok q =>
      rw [henter] at h
      rw [enter_put hp henter]
      exact h

/-- **A file is read as it was written.** -/
theorem read_of_write (h : files.write path bytes = .ok written) :
    written.read path = .ok bytes := by
  obtain ⟨p, hplace, hlook, rfl⟩ := write_cases h
  unfold read
  simp only [place_put hlook hplace, look_put_self]

end CiVariables.Files
