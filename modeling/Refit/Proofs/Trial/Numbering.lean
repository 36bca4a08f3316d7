import Refit.Proofs.Execution.Blindness
import Refit.Proofs.Sheet.Counterparts
import Refit.Proofs.Sheet.Referents
import Refit.Proofs.Store.Ledger
import Refit.Proofs.Trial.Storing

/-!
# Recordings and the numbers of objects

The numbers of objects get on a sheet in texts only: an expression writes an object with
its number into a text, and a fault may speak of an object.  A run whose outputs spell no
object is recorded the same whatever the counter of objects was when it began, so its
sheets are stored a second time.  A run that spells one is not.
-/

namespace Refit

namespace Runner

variable {p : Runner} {h h' : Heap}

/-- Over a blind host the counter of objects does not matter for a run whose outputs spell
no object: begun with any other counter it is recorded the same, so a ledger that has taken
the sheets of the one takes those of the other. -/
theorem recorded_renumbered
    (hblind : p.host.Blind) (hnames : ∀ entry ∈ p.names, entry.2.Only fun _ => False)
    {sequence : Sequence} (hobjects : sequence.ObjectFree)
    (hfresh : h.Fresh) (hfresh' : h'.Fresh)
    (hunspelled : ∀ moment,
      p.Visits (Observer.recorder p.host) sequence h (Recording.empty sequence.name) moment →
        ∀ result, (p.performAt moment).1 = .ok result →
          Unspelled h.nextId h'.nextId result.output) :
    let first := p.execute (Observer.recorder p.host) sequence h (Recording.empty sequence.name)
    let second :=
      p.execute (Observer.recorder p.host) sequence h' (Recording.empty sequence.name)
    second.visitor.actuation = first.visitor.actuation ∧
      second.visitor.adapted = first.visitor.adapted ∧
      second.result = first.result.map (Run.renumber h.nextId h'.nextId) ∧
      ∀ (key : SheetKey) (s s' : Ledger),
        s.enterCells (key.addressed (first.visitor.sheet key.kind)) = (s', .ok ()) →
          s'.enterCells (key.addressed (second.visitor.sheet key.kind)) = (s', .ok ()) := by
  have htwins := execute_twins (hblind _ _) hnames hobjects hfresh hfresh' hunspelled
  intro first second
  have hsame : second.visitor = first.visitor := htwins.visitor
  refine ⟨by rw [hsame], by rw [hsame], htwins.result, fun key s s' henter => ?_⟩
  rw [hsame]
  exact Ledger.enterCells_again henter

end Runner

namespace Samples

theorem echoHost_plain : (echoHost .args).Plain where
  constants := echoHost_constantsOnly (b := .args) nofun _
  behaviours s hs text htext := by
    cases List.mem_singleton.mp hs
    cases htext
  snapshots := by simp [echoHost]

/-- The second step hands the stand-in on to the code behind. -/
def handingKinds : List (StepKind × List StepInput) :=
  [(.construct "Echo", []), (.call "Echo" "echo" (some 0), [.ref 0])]

/-- The second step writes the stand-in into a text. -/
def spellingKinds : List (StepKind × List StepInput) :=
  [(.construct "Echo", []), (.eval "\"\" + $0", [])]

/-- The record of a sample sequence, begun with a counter. -/
def numberedRecord (kinds : List (StepKind × List StepInput)) (counter : ℕ) :
    Runner.Outcome Recording :=
  (echoRunner .args).execute (Observer.recorder (echoRunner .args).host)
    (Sequence.ofKinds "numbered" kinds) ⟨counter, []⟩ (Recording.empty "numbered")

def numberedKey : SheetKey := ⟨⟨"run", "Echo", "calls", "numbered", "util", 0⟩, .actuation⟩

end Samples

open Samples in
/-- A stand-in is made and handed on, first as the first object and then as the second. -/
theorem Runner.recorded_renumbered_handing :
    (numberedRecord handingKinds 2).visitor.actuation =
        (numberedRecord handingKinds 1).visitor.actuation ∧
      (numberedRecord handingKinds 1).visitor.actuation.get? 1 Sheet.firstInputColumn =
        some "\"$CUT@Echo@0\"" := by
  have hfinal : ∃ final, (numberedRecord handingKinds 1).result = .ok final ∧
      final.steps.map (·.output) =
        [some (.ok (.object ⟨1, "Echo"⟩)), some (.ok (.list [.null]))] := ⟨_, rfl, rfl⟩
  obtain ⟨final, hresult, houtputs⟩ := hfinal
  have hblind : (echoRunner .args).host.Blind := HostScript.host_blind echoHost_plain
  have hnames : ∀ entry ∈ (echoRunner .args).names, entry.2.Only fun _ => False := by
    simp [echoRunner]
  have hobjects : (Sequence.ofKinds "numbered" handingKinds).ObjectFree := by
    simp [Sequence.ObjectFree, Sequence.ofKinds, handingKinds, Step.LiteralsOnly]
  have hfresh : ∀ counter, Heap.Fresh ⟨counter, []⟩ := fun _ _ _ => rfl
  have hunspelled : ∀ moment, (echoRunner .args).Visits
      (Observer.recorder (echoRunner .args).host) (Sequence.ofKinds "numbered" handingKinds)
      ⟨1, []⟩ (Recording.empty "numbered") moment →
        ∀ result, ((echoRunner .args).performAt moment).1 = .ok result →
          Unspelled 1 2 result.output := by
    intro moment hvisit result hperform
    obtain ⟨done, hdone, houtput⟩ := exists_recorded_of_reaches hvisit hresult hperform
    have hmem : some result.output ∈ final.steps.map (·.output) :=
      List.mem_map.mpr ⟨done, hdone, houtput⟩
    rw [houtputs] at hmem
    rcases List.mem_cons.mp hmem with hobject | hmem
    · rw [Option.some.inj hobject]
      refine ⟨quiet_ok _, fun v hv htells => ?_⟩
      cases hv
      cases htells
    · rw [Option.some.inj (List.mem_singleton.mp hmem)]
      refine ⟨quiet_ok _, fun v hv htells => ?_⟩
      cases hv
      obtain ⟨_⟩ | ⟨hitem, htells⟩ := htells
      cases List.mem_singleton.mp hitem
      cases htells
  have hsame := recorded_renumbered (p := echoRunner .args) hblind hnames hobjects (hfresh 1)
    (hfresh 2) hunspelled
  exact ⟨hsame.1, by decide +kernel⟩

open Samples in
/-- A blind host and no objects in the sequence: still the counter gets on the sheet, and a
ledger that has taken the sheet of one run refuses that of the other. -/
theorem Runner.recorded_depends_on_counter :
    (echoRunner .args).host.Blind ∧
      (Sequence.ofKinds "numbered" spellingKinds).ObjectFree ∧
      (numberedRecord spellingKinds 1).visitor.actuation ≠
        (numberedRecord spellingKinds 2).visitor.actuation ∧
      let first := Ledger.enterCells {}
        (numberedKey.addressed (numberedRecord spellingKinds 1).visitor.actuation)
      first.2.isOk ∧
        ¬ (first.1.enterCells
          (numberedKey.addressed (numberedRecord spellingKinds 2).visitor.actuation)).2.isOk := by
  refine ⟨HostScript.host_blind echoHost_plain, ?_, by decide +kernel, by decide +kernel⟩
  simp [Sequence.ObjectFree, Sequence.ofKinds, spellingKinds, Step.LiteralsOnly]

end Refit
