import Mathlib
import Refit.Proofs.Fitting.Dependencies
import Refit.Proofs.Signature.Writing

/-!
# What a key tells

The text behind a key is a list of lines.  From it everything that it was made of
can be read back, as long as names hold no separators: the members declared and
inherited, the interface and the settings of the search.  It says nothing about
the kind of the component, about which names are below which, and about names and
results of constructors.
-/

namespace Refit

namespace Settings

def flagWord (b : Bool) : String := if b then "true" else "false"

/-- What the settings of the search are written as. -/
def searchWords (s : Settings) : List String :=
  [s.generation.title, Nat.repr s.methodMax, Nat.repr s.candidateMax,
    Nat.repr s.permutationCeiling, flagWord s.truncateOnOverflow,
    Nat.repr s.adapterLimit, Nat.repr s.maxParamsLength,
    flagWord s.filterAccessors, flagWord s.includePrivate]

theorem searchKey_eq (s : Settings) :
    s.searchKey = "/".intercalate s.searchWords :=
  rfl

theorem freeOf_title (g : Generation) : FreeOf ['/', '\n'] g.title := by
  cases g <;> decide

theorem freeOf_flagWord (b : Bool) : FreeOf ['/', '\n'] (flagWord b) := by
  cases b <;> decide

theorem freeOf_repr (n : ℕ) : FreeOf ['/', '\n'] n.repr := by
  intro c hc hmem
  rw [Nat.toList_repr] at hmem
  have hdigit := Nat.isDigit_of_mem_toDigits (by decide) (by decide) hmem
  rcases List.mem_cons.mp hc with rfl | hend
  · exact absurd hdigit (by decide)
  · rw [List.mem_singleton.mp hend] at hdigit
    exact absurd hdigit (by decide)

theorem freeOf_of_mem_searchWords {s : Settings} {word : String}
    (hword : word ∈ s.searchWords) : FreeOf ['/', '\n'] word := by
  unfold searchWords at hword
  simp only [List.mem_cons, List.not_mem_nil, or_false] at hword
  rcases hword with rfl | rfl | rfl | rfl | rfl | rfl | rfl | rfl | rfl
  · exact freeOf_title _
  · exact freeOf_repr _
  · exact freeOf_repr _
  · exact freeOf_repr _
  · exact freeOf_flagWord _
  · exact freeOf_repr _
  · exact freeOf_repr _
  · exact freeOf_flagWord _
  · exact freeOf_flagWord _

theorem title_inj {g g' : Generation} (htitle : g.title = g'.title) : g = g' := by
  cases g <;> cases g' <;> first | rfl | exact absurd htitle (by decide)

theorem flagWord_inj {b b' : Bool} (hword : flagWord b = flagWord b') : b = b' := by
  cases b <;> cases b' <;> first | rfl | exact absurd hword (by decide)

theorem searchKey_inj {s s' : Settings} (hkey : s.searchKey = s'.searchKey) :
    s.forSearch = s'.forSearch := by
  rw [searchKey_eq, searchKey_eq] at hkey
  have hnonempty : ∀ s : Settings, s.searchWords ≠ [] := by
    intro s
    simp [searchWords]
  have hwords : s.searchWords = s'.searchWords :=
    intercalate_inj (by rfl)
      (fun word hword => freeOf_of_mem_searchWords hword '/' (by decide))
      (fun word hword => freeOf_of_mem_searchWords hword '/' (by decide))
      (hnonempty s) (hnonempty s') hkey
  simp only [searchWords, List.cons.injEq, and_true] at hwords
  obtain ⟨hgeneration, hmethod, hcandidate, hceiling, htruncate, hlimit, hparams,
    haccessors, hprivate⟩ := hwords
  unfold forSearch
  rw [title_inj hgeneration, Nat.repr_injective hmethod,
    Nat.repr_injective hcandidate, Nat.repr_injective hceiling,
    flagWord_inj htruncate, Nat.repr_injective hlimit,
    Nat.repr_injective hparams, flagWord_inj haccessors, flagWord_inj hprivate]

theorem notMem_searchKey (s : Settings) : '\n' ∉ s.searchKey.toList := by
  have hglue : FreeOf ['\n'] "/" := by decide
  have hwords : ∀ word ∈ s.searchWords, FreeOf ['\n'] word := by
    intro word hword c hc
    exact freeOf_of_mem_searchWords hword c (List.mem_cons_of_mem '/' hc)
  rw [searchKey_eq]
  exact hglue.intercalate hwords '\n' List.mem_cons_self

end Settings

namespace Request

/-- The lines of the text behind a key. -/
def lines (r : Request) : List String :=
  r.component.id :: r.component.name ::
    (r.component.members.map Member.text ++
      (r.component.inherited.map (fun m => "^ " ++ m.text) ++
        (r.interface.describe ::
          (r.catalog.names.map ("~ " ++ ·) ++ [r.settings.searchKey]))))

theorem intercalate_lines (lines : List String) (last : String) :
    "".intercalate (lines.map (· ++ "\n") ++ [last]) =
      "\n".intercalate (lines ++ [last]) := by
  induction lines with
  | nil => rfl
  | cons line lines ih =>
      have hne : lines ++ [last] ≠ [] := by simp
      have hne' : lines.map (· ++ "\n") ++ [last] ≠ [] := by simp
      rw [List.map_cons, List.cons_append, List.cons_append,
        String.intercalate_cons_of_ne_nil hne',
        String.intercalate_cons_of_ne_nil hne, ih]
      simp [String.append_assoc]

theorem text_eq (r : Request) : r.text = "\n".intercalate r.lines := by
  have hlines : r.lines =
      (r.component.id :: r.component.name ::
        (r.component.members.map Member.text ++
          (r.component.inherited.map (fun m => "^ " ++ m.text) ++
            (r.interface.describe :: r.catalog.names.map ("~ " ++ ·))))) ++
        [r.settings.searchKey] := by
    simp [lines]
  rw [hlines, ← intercalate_lines]
  unfold text Fingerprint.text
  simp [Fingerprint.line, Component.inherited, Function.comp_def]
  rfl

/-- The names in the request are not taken for anything else when it is written,
and its interface is one that can be read back from its description. -/
structure Plain (r : Request) : Prop where
  id : FreeOf ['\n'] r.component.id
  name : FreeOf ['\n'] r.component.name
  members : ∀ m ∈ r.component.members, m.Plain
  inherited : ∀ m ∈ r.component.inherited, m.Plain
  description : FreeOf ['\n'] r.interface.describe
  parse : Interface.parse r.interface.describe = .ok r.interface
  names : ∀ name ∈ r.catalog.names, FreeOf ['\n'] name

namespace Plain

variable {r r' : Request}

theorem freeOf_of_mem_lines (hr : r.Plain) {line : String}
    (hline : line ∈ r.lines) : FreeOf ['\n'] line := by
  have hmember : ∀ m : Member, m.Plain → FreeOf ['\n'] m.text := by
    intro m hm c hc
    exact hm.freeOf_text c (List.mem_append_left ['^'] hc)
  have hcaret : FreeOf ['\n'] "^ " := by decide
  have htilde : FreeOf ['\n'] "~ " := by decide
  have hkey : FreeOf ['\n'] r.settings.searchKey := by
    intro c hc
    rw [List.mem_singleton.mp hc]
    exact r.settings.notMem_searchKey
  unfold lines at hline
  simp only [List.mem_cons, List.mem_append, List.mem_map, List.not_mem_nil,
    or_false] at hline
  rcases hline with rfl | rfl | ⟨m, hm, rfl⟩ | ⟨m, hm, rfl⟩ | rfl |
    ⟨name, hname, rfl⟩ | rfl
  · exact hr.id
  · exact hr.name
  · exact hmember m (hr.members m hm)
  · exact hcaret.append (hmember m (hr.inherited m hm))
  · exact hr.description
  · exact htilde.append (hr.names name hname)
  · exact hkey

theorem lines_inj (hr : r.Plain) (hr' : r'.Plain) (htext : r.text = r'.text) :
    r.lines = r'.lines := by
  have hnonempty : ∀ r : Request, r.lines ≠ [] := by
    intro r
    simp [lines]
  rw [text_eq, text_eq] at htext
  exact intercalate_inj (by rfl)
    (fun line hline => hr.freeOf_of_mem_lines hline '\n' List.mem_cons_self)
    (fun line hline => hr'.freeOf_of_mem_lines hline '\n' List.mem_cons_self)
    (hnonempty r) (hnonempty r') htext

end Plain

/-- The lines of the members, declared and inherited. -/
def memberLines (r : Request) : List String :=
  r.component.members.map Member.text ++
    r.component.inherited.map (fun m => "^ " ++ m.text)

theorem lines_eq (r : Request) :
    r.lines = r.component.id :: r.component.name ::
      (r.memberLines ++ r.interface.describe ::
        (r.catalog.names.map ("~ " ++ ·) ++ [r.settings.searchKey])) := by
  simp [lines, memberLines]

/-- The id stands in front of the first line break. -/
theorem id_eq_of_text_eq
    {r r' : Request} (hid : FreeOf ['\n'] r.component.id) (hidOther : FreeOf ['\n'] r'.component.id)
    (htext : r.text = r'.text) : r.component.id = r'.component.id := by
  have hsplit : ∀ r : Request, ∃ rest, r.text.toList = r.component.id.toList ++ '\n' :: rest := by
    intro r
    rw [text_eq, lines_eq, String.intercalate_cons_cons, String.toList_append,
      String.toList_append]
    exact ⟨_, List.append_assoc _ _ _⟩
  obtain ⟨rest, hrest⟩ := hsplit r
  obtain ⟨rest', hrest'⟩ := hsplit r'
  rw [htext, hrest'] at hrest
  obtain ⟨hsame, -⟩ := append_cons_inj_of_notMem (hidOther '\n' List.mem_cons_self)
    (hid '\n' List.mem_cons_self) hrest
  exact String.toList_injective hsame.symm

theorem getLast?_of_mem_memberLines {r : Request} {line : String}
    (hline : line ∈ r.memberLines) : line.toList.getLast? = some ')' := by
  simp only [memberLines, List.mem_append, List.mem_map] at hline
  rcases hline with ⟨m, -, rfl⟩ | ⟨m, -, rfl⟩
  · exact m.getLast?_text
  · rw [String.toList_append]
    exact List.mem_getLast?_append_of_mem_getLast? m.getLast?_text

theorem getLast?_describe (i : Interface) :
    i.describe.toList.getLast? = some '\x7d' := by
  rw [Interface.describe, String.toList_append]
  exact List.mem_getLast?_append_of_mem_getLast? rfl

namespace Plain

variable {r r' : Request}

theorem memberLines_inj (hr : r.Plain) (hr' : r'.Plain)
    (hlines : r.memberLines = r'.memberLines) :
    r.component.members.map Member.text = r'.component.members.map Member.text ∧
      r.component.inherited.map Member.text =
        r'.component.inherited.map Member.text := by
  have hdeclared : ∀ {r : Request}, r.Plain →
      ∀ line ∈ r.component.members.map Member.text, '^' ∉ line.toList := by
    intro r hr line hline
    obtain ⟨m, hm, rfl⟩ := List.mem_map.mp hline
    exact (hr.members m hm).freeOf_text '^' (by decide)
  have hinherited : ∀ (r : Request) (line : String),
      (r.component.inherited.map (fun m => "^ " ++ m.text)).head? = some line →
      ¬ '^' ∉ line.toList := by
    intro r line hline
    obtain ⟨m, -, rfl⟩ := List.mem_map.mp (List.mem_of_head? hline)
    simp
  obtain ⟨hmembers, hmarked⟩ :=
    append_inj_of_forall (p := fun line : String => '^' ∉ line.toList)
      (hdeclared hr) (hdeclared hr') (hinherited r) (hinherited r') hlines
  refine ⟨hmembers, ?_⟩
  have hmark : Function.Injective (fun text : String => "^ " ++ text) :=
    fun _ _ hsame => (String.append_right_inj "^ ").mp hsame
  refine List.map_injective_iff.mpr hmark ?_
  rw [List.map_map, List.map_map]
  exact hmarked

theorem text_inj (hr : r.Plain) (hr' : r'.Plain) (htext : r.text = r'.text) :
    r.component.id = r'.component.id ∧ r.component.name = r'.component.name ∧
      r.component.members.map Member.text = r'.component.members.map Member.text ∧
      r.component.inherited.map Member.text =
        r'.component.inherited.map Member.text ∧
      r.interface = r'.interface ∧ r.settings.forSearch = r'.settings.forSearch := by
  have hlines := hr.lines_inj hr' htext
  rw [lines_eq, lines_eq, List.cons.injEq, List.cons.injEq] at hlines
  obtain ⟨hid, hname, hrest⟩ := hlines
  have hdescription : ∀ (r : Request) (rest : List String) (line : String),
      (r.interface.describe :: rest).head? = some line →
      ¬ line.toList.getLast? = some ')' := by
    intro r rest line hline
    cases hline
    rw [getLast?_describe]
    decide
  obtain ⟨hmembers, hbehind⟩ :=
    append_inj_of_forall (fun _ => getLast?_of_mem_memberLines)
      (fun _ => getLast?_of_mem_memberLines) (hdescription r _) (hdescription r' _)
      hrest
  obtain ⟨hdeclared, hinherited⟩ := hr.memberLines_inj hr' hmembers
  rw [List.cons.injEq] at hbehind
  obtain ⟨hdescribe, hends⟩ := hbehind
  have hinterface : r.interface = r'.interface := by
    have hparse := hr.parse
    rw [hdescribe, hr'.parse, Except.ok.injEq] at hparse
    exact hparse.symm
  have hkey := List.append_inj_right' hends (by simp)
  rw [List.cons.injEq] at hkey
  exact ⟨hid, hname, hdeclared, hinherited, hinterface,
    Settings.searchKey_inj hkey.1⟩

end Plain

/-- The two agree on what the text does not tell of them. -/
structure SameUnwritten (r r' : Request) : Prop where
  kind : r.component.kind = r'.component.kind
  members : Member.constructorHeads r.component.members =
    Member.constructorHeads r'.component.members
  inherited : Member.constructorHeads r.component.inherited =
    Member.constructorHeads r'.component.inherited
  isSubtype : ∀ sub sup, r.catalog.isSubtype sub sup = r'.catalog.isSubtype sub sup

/-- The text misses nothing else that the search looks at. -/
theorem found_eq_of_text_eq {r r' : Request} (hr : r.Plain) (hr' : r'.Plain)
    (htext : r.text = r'.text) (hsame : r.SameUnwritten r') : r.found = r'.found := by
  obtain ⟨hid, hname, hdeclared, hinherited, hinterface, hsettings⟩ :=
    hr.text_inj hr' htext
  have hmembers := Member.map_text_inj hr.members hr'.members hdeclared hsame.members
  have hmethods :=
    Member.map_text_inj hr.inherited hr'.inherited hinherited hsame.inherited
  have hcomponent : r.component.forSearch = r'.component.forSearch := by
    simp only [Component.forSearch, hid, hname, hsame.kind, hmembers, hmethods]
  have hsubtype : r.catalog.isSubtype = r'.catalog.isSubtype :=
    funext fun sub => funext fun sup => hsame.isSubtype sub sup
  exact found_congr hcomponent hinterface hsubtype hsettings

end Request

end Refit
