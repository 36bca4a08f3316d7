import Refit.Proofs.Association
import Refit.Store.Files

/-!
# Writing below the root

A path that is followed leads to the place that its parts name, and no shorter path
leads as deep.  Writing a file makes folders and changes this one file, and folders stay;
when it is refused, all files are as they were.
-/

namespace Refit

namespace FilePath

/-- Every part is the name of something in its folder. -/
def Plain (path : FilePath) : Prop := ∀ part ∈ path, stays part = false ∧ part ≠ ".."

/-- Where the parts lead, whatever is there. -/
def walk (place : Place) : FilePath → Place
  | [] => place
  | part :: rest =>
    if stays part then walk place rest
    else if part = ".." then walk place.up rest
    else walk (place ++ [part]) rest

variable {path path' : FilePath} {place : Place}

theorem walk_plain (h : Plain path) (place : Place) : walk place path = place ++ path := by
  induction path generalizing place with
  | nil => simp [walk]
  | cons part rest ih =>
      obtain ⟨⟨hstays, hup⟩, hrest⟩ := List.forall_mem_cons.mp h
      rw [walk, if_neg (ne_true_of_eq_false hstays), if_neg hup, ih hrest]
      simp

theorem length_up_le (place : Place) : place.up.length ≤ place.length + 1 := by
  unfold Place.up
  split_ifs
  · simp
  · simp
    omega

theorem length_walk_le (place : Place) (path : FilePath) :
    (walk place path).length ≤ place.length + path.length := by
  induction path generalizing place with
  | nil => simp [walk]
  | cons part rest ih =>
      rw [walk, List.length_cons]
      split_ifs
      · have := ih place
        omega
      · have := ih place.up
        have := length_up_le place
        omega
      · have := ih (place ++ [part])
        simp at this
        omega

/-- A path leads one folder deeper with every part only if it names every folder. -/
theorem walk_eq_append (hlength : (walk place path).length = place.length + path.length) :
    walk place path = place ++ path := by
  induction path generalizing place with
  | nil => simp [walk]
  | cons part rest ih =>
      rw [List.length_cons] at hlength
      rw [walk] at hlength ⊢
      split_ifs at hlength ⊢ with hstays hup
      · have := length_walk_le place rest
        omega
      · have hwalk := length_walk_le place.up rest
        have hall : place.all (· = "..") = true := by
          by_contra hnot
          have hshort : place.up.length = place.length - 1 := by
            rw [Place.up, if_neg hnot, List.length_dropLast]
          omega
        have hplace : place.up = place ++ [part] := by
          rw [Place.up, if_pos hall, hup]
        rw [hplace] at hlength ⊢
        rw [ih (by simp; omega)]
        simp
      · rw [ih (by simp; omega)]
        simp

theorem eq_of_walk_eq (hwalk : walk [] path' = path) (hlength : path'.length = path.length) :
    path' = path := by
  rw [← hwalk]
  exact (walk_eq_append (by rw [hwalk, hlength]; simp)).symm

theorem length_parent_lt (hne : path ≠ []) : path.parent.length < path.length := by
  have hpos : 0 < path.length := List.length_pos_of_ne_nil hne
  have hfilter := List.length_filter_le (fun part => !stays part) path
  unfold parent
  rw [List.length_dropLast]
  omega

end FilePath

namespace FileSystem

open FilePath

variable {fs fs' : FileSystem} {path : FilePath} {place target : Place} {text : String}

theorem follow?_eq_walk (hfollow : fs.follow? place path = some target) :
    target = walk place path := by
  induction path generalizing place with
  | nil => exact (Option.some.inj hfollow).symm
  | cons part rest ih =>
      rw [follow?] at hfollow
      split_ifs at hfollow with _ hstays hup <;> rw [walk]
      · rw [if_pos hstays]
        exact ih hfollow
      · rw [if_neg hstays, if_pos hup]
        exact ih hfollow
      · rw [if_neg hstays, if_neg hup]
        exact ih hfollow

/-- All folders of the one are folders of the other. -/
def Grows (fs fs' : FileSystem) : Prop := ∀ place, fs.isFolder place → fs'.isFolder place

theorem Grows.follow? (h : fs.Grows fs') (hfollow : fs.follow? place path = some target) :
    fs'.follow? place path = some target := by
  induction path generalizing place with
  | nil => exact hfollow
  | cons part rest ih =>
      rw [FileSystem.follow?] at hfollow ⊢
      by_cases hfolder : fs.isFolder place = true
      · simp only [hfolder, h place hfolder, Bool.not_true, Bool.false_eq_true, if_false]
          at hfollow ⊢
        split_ifs at hfollow ⊢ <;> exact ih hfollow
      · simp [hfolder] at hfollow

theorem grows_add (fs : FileSystem) (next : Place) :
    fs.Grows { fs with folders := fs.folders ++ [next] } := by
  intro place hfolder
  unfold isFolder at hfolder ⊢
  simp only [Bool.or_eq_true, List.contains_iff_mem, List.mem_append] at hfolder ⊢
  tauto

/-- Making folders keeps what is there, and what it makes is no deeper than the path. -/
structure Deepens (fs fs' : FileSystem) (depth : ℕ) : Prop where
  files : fs'.files = fs.files
  grows : fs.Grows fs'
  folders : ∀ folder ∈ fs'.folders, folder ∈ fs.folders ∨ folder.length ≤ depth

theorem Deepens.refl (fs : FileSystem) (depth : ℕ) : fs.Deepens fs depth :=
  ⟨rfl, fun _ hfolder => hfolder, fun _ hfolder => Or.inl hfolder⟩

theorem Deepens.mono {depth depth' : ℕ} (h : fs.Deepens fs' depth) (hdepth : depth ≤ depth') :
    fs.Deepens fs' depth' :=
  ⟨h.files, h.grows, fun folder hfolder => (h.folders folder hfolder).imp_right hdepth.trans'⟩

theorem makeFolders_deepens (fs : FileSystem) (place : Place) (path : FilePath) :
    fs.Deepens (fs.makeFolders place path).1 (place.length + path.length) := by
  induction path generalizing fs place with
  | nil => exact .refl fs _
  | cons part rest ih =>
      have hnext : (place ++ [part]).length + rest.length = place.length + (rest.length + 1) := by
        simp
        omega
      rw [makeFolders, List.length_cons]
      simp only
      split_ifs
      · exact (ih fs place).mono (by omega)
      · have := length_up_le place
        exact (ih fs place.up).mono (by omega)
      · exact .refl fs _
      · rw [← hnext]
        exact ih fs (place ++ [part])
      · rw [← hnext]
        have hmade := ih { fs with folders := fs.folders ++ [place ++ [part]] } (place ++ [part])
        refine ⟨hmade.files, fun q hq => hmade.grows q (grows_add fs _ q hq), ?_⟩
        intro folder hfolder
        rcases hmade.folders folder hfolder with hold | hdeep
        · rw [List.mem_append, List.mem_singleton] at hold
          refine hold.imp_right ?_
          rintro rfl
          omega
        · exact Or.inr hdeep

theorem write_error {e : Error} (hwrite : fs.write path text = (fs', .error e)) : fs' = fs := by
  unfold write at hwrite
  split at hwrite
  · exact (Prod.mk.inj hwrite).1.symm
  · split_ifs at hwrite
    · exact (Prod.mk.inj hwrite).1.symm
    · cases hwrite

theorem write_ok (hwrite : fs.write path text = (fs', .ok ())) :
    fs.place? path = some (walk [] path) ∧ fs.isFolder (walk [] path) = false ∧
      fs'.folders = fs.folders ∧
      ∀ q, fs'.file? q = if q = walk [] path then some text else fs.file? q := by
  unfold write at hwrite
  split at hwrite
  · cases hwrite
  · next place hplace =>
    have hwalk : place = walk [] path := follow?_eq_walk hplace
    subst hwalk
    split_ifs at hwrite with hrefused
    · cases hwrite
    · cases hwrite
      refine ⟨hplace, ?_, rfl, ?_⟩
      · by_contra hfolder
        simp [hfolder] at hrefused
      · intro q
        unfold file?
        rw [List.lookup_cons]
        split_ifs with hq
        · simp [hq]
        · simp only [beq_false_of_ne hq]
          exact lookup_filter_ne hq

theorem writeBelow_eq (fs : FileSystem) (path : FilePath) (text : String) :
    fs.writeBelow path text =
      match (fs.makeFolders [] path.parent).2 with
      | .error e => ((fs.makeFolders [] path.parent).1, .error e)
      | .ok _ => (fs.makeFolders [] path.parent).1.write path text := by
  unfold writeBelow
  rcases fs.makeFolders [] path.parent with ⟨made, _ | _⟩ <;> rfl

theorem makeFolders_parent (fs : FileSystem) (hne : path ≠ []) :
    fs.Deepens (fs.makeFolders [] path.parent).1 (path.length - 1) := by
  have hlength := length_parent_lt hne
  exact (makeFolders_deepens fs [] path.parent).mono (by simp; omega)

/-- A file is written where its path leads, and no other file is. -/
theorem writeBelow_ok (hwrite : fs.writeBelow path text = (fs', .ok ())) (hne : path ≠ []) :
    fs'.place? path = some (walk [] path) ∧ fs.Grows fs' ∧
      (∀ folder ∈ fs'.folders, folder ∈ fs.folders ∨ folder.length ≤ path.length - 1) ∧
      ∀ q, fs'.file? q = if q = walk [] path then some text else fs.file? q := by
  have hmade := makeFolders_parent fs hne
  rw [writeBelow_eq] at hwrite
  split at hwrite
  · cases hwrite
  · obtain ⟨hplace, -, hfolders, hfiles⟩ := write_ok hwrite
    have hsame : ∀ q, (fs.makeFolders [] path.parent).1.isFolder q = fs'.isFolder q := by
      intro q
      rw [isFolder, isFolder, hfolders]
    refine ⟨?_, fun q hq => hsame q ▸ hmade.grows q hq, hfolders ▸ hmade.folders, ?_⟩
    · exact Grows.follow? (fun q hq => hsame q ▸ hq) hplace
    · intro q
      rw [hfiles, file?, hmade.files]
      rfl

theorem writeBelow_error
    {e : Error} (hwrite : fs.writeBelow path text = (fs', .error e)) (hne : path ≠ []) :
    fs.Deepens fs' (path.length - 1) := by
  have hmade := makeFolders_parent fs hne
  rw [writeBelow_eq] at hwrite
  split at hwrite
  · cases hwrite
    exact hmade
  · rw [write_error hwrite]
    exact hmade

theorem makeFolders_error {e : Error} (hrefused : (fs.makeFolders place path).2 = .error e) :
    e = .io := by
  induction path generalizing fs place with
  | nil => cases hrefused
  | cons part rest ih =>
      rw [makeFolders] at hrefused
      simp only at hrefused
      split_ifs at hrefused
      · exact ih hrefused
      · exact ih hrefused
      · cases hrefused
        rfl
      · exact ih hrefused
      · exact ih hrefused

theorem writeBelow_io {e : Error} (hrefused : (fs.writeBelow path text).2 = .error e) :
    e = .io := by
  rw [writeBelow_eq] at hrefused
  split at hrefused
  · next hmade =>
    cases hrefused
    exact makeFolders_error hmade
  · unfold write at hrefused
    split at hrefused
    · cases hrefused
      rfl
    · split_ifs at hrefused
      · cases hrefused
        rfl

section Taken

theorem isFolder_root (fs : FileSystem) : fs.isFolder [] = true := rfl

theorem isFolder_made (fs : FileSystem) (next : Place) :
    isFolder { fs with folders := fs.folders ++ [next] } next = true := by
  simp [isFolder]

theorem makeFolders_taken
    {name : String} (hplain : Plain (path ++ [name])) (hlegal : ∀ part ∈ path, isLegal part = true)
    (hplace : fs.isFolder place = true)
    (hfree : ∀ q, q.length ≤ place.length + path.length → fs.file? q = none) :
    (fs.makeFolders place path).2 = .ok () ∧
      (fs.makeFolders place path).1.follow? place (path ++ [name]) =
        some (place ++ (path ++ [name])) := by
  induction path generalizing fs place with
  | nil =>
      obtain ⟨hstays, hup⟩ := hplain name (by simp)
      simp [makeFolders, follow?, hplace, hstays, hup]
  | cons part rest ih =>
      rw [List.cons_append] at hplain
      obtain ⟨⟨hstays, hup⟩, hrest⟩ := List.forall_mem_cons.mp hplain
      obtain ⟨hpart, hlegal⟩ := List.forall_mem_cons.mp hlegal
      have hnext : fs.file? (place ++ [part]) = none := hfree _ (by simp)
      obtain ⟨made, hmade, hgrows, hfolder, hfiles⟩ : ∃ made,
          fs.makeFolders place (part :: rest) = made.makeFolders (place ++ [part]) rest ∧
            fs.Grows made ∧ made.isFolder (place ++ [part]) = true ∧ made.files = fs.files := by
        rw [makeFolders]
        simp only [hstays, hup, hpart, hnext, Bool.false_eq_true, if_false, Bool.not_true,
          Option.isSome_none, Bool.or_self]
        split_ifs with hthere
        · exact ⟨fs, rfl, fun _ hq => hq, hthere, rfl⟩
        · exact ⟨_, rfl, grows_add fs _, isFolder_made fs _, rfl⟩
      have hfree' : ∀ q, q.length ≤ (place ++ [part]).length + rest.length →
          made.file? q = none := by
        intro q hq
        rw [file?, hfiles]
        refine hfree q ?_
        simp at hq ⊢
        omega
      obtain ⟨htaken, hfollow⟩ := ih hrest hlegal hfolder hfree'
      have hplace' := (makeFolders_deepens made (place ++ [part]) rest).grows place
        (hgrows place hplace)
      rw [hmade]
      refine ⟨htaken, ?_⟩
      rw [List.cons_append, FileSystem.follow?]
      simp only [hplace', hstays, hup, Bool.not_true, Bool.false_eq_true, if_false, hfollow]
      simp

theorem parent_plain {name : String} (hplain : Plain (path ++ [name])) :
    FilePath.parent (path ++ [name]) = path := by
  have hkept : (path ++ [name]).filter (!stays ·) = path ++ [name] := by
    rw [List.filter_eq_self]
    intro part hpart
    rw [(hplain part hpart).1]
    rfl
  rw [FilePath.parent, hkept, List.dropLast_concat]

theorem writeBelow_taken
    (path : FilePath) {name : String} (hplain : Plain (path ++ [name]))
    (hlegal : ∀ part ∈ path ++ [name], isLegal part = true)
    (hfolder : ∀ folder ∈ fs.folders, folder.length ≤ path.length)
    (hfree : ∀ q, q.length ≤ path.length → fs.file? q = none) (text : String) :
    (fs.writeBelow (path ++ [name]) text).2 = .ok () := by
  have hfree' : ∀ q : Place, q.length ≤ ([] : Place).length + path.length →
      fs.file? q = none := fun q hq => hfree q (by simpa using hq)
  obtain ⟨htaken, hfollow⟩ := makeFolders_taken hplain
    (fun part hpart => hlegal part (List.mem_append_left _ hpart)) (isFolder_root fs) hfree'
  have hnew : (fs.makeFolders [] path).1.isFolder (path ++ [name]) = false := by
    rw [isFolder, Bool.or_eq_false_iff]
    refine ⟨?_, ?_⟩
    · rw [List.all_eq_false]
      exact ⟨name, by simp, by simpa using (hplain name (by simp)).2⟩
    · simp only [List.contains_eq_mem, decide_eq_false_iff_not]
      intro hmem
      have hdeep := ((makeFolders_deepens fs [] path).folders _ hmem).elim (hfolder _)
        (by simp)
      simp at hdeep
  rw [writeBelow_eq, parent_plain hplain, htaken]
  simp only
  have hall : (path ++ [name]).all isLegal = true := List.all_eq_true.mpr hlegal
  rw [write, place?, hfollow]
  simp [hnew, hall]

end Taken

end FileSystem

end Refit
