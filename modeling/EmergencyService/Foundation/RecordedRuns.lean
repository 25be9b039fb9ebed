import EmergencyService.Foundation.GuardedRuns
import EmergencyService.Foundation.PendingOperations
import Mathlib.Data.List.Forall2

/- Machines whose actions put something out, the transcript of a run, and what transcripts
   mean as operations of an abstract system. -/
namespace RecordedRuns
open GuardedRuns PendingOperations

variable {S A O Op T : Type}

def recorded (act : S → A → Option (S × List O)) (s : S × List O) (a : A) :
    Option (S × List O) :=
  (act s.1 a).map fun after => (after.1, s.2 ++ after.2)

/-- From one state to another with the transcript on the way. -/
abbrev Recorded (act : S → A → Option (S × List O)) (condition : S → A → Prop) (s s' : S)
    (transcript : List O) : Prop :=
  Runs (recorded act) (fun before a => condition before.1 a) (s, []) (s', transcript)

variable {act : S → A → Option (S × List O)} {condition : S → A → Prop} {s s' : S}
  {transcript : List O}

theorem recorded_some {before after : S × List O} {a : A}
    (acted : recorded act before a = some after) :
    ∃ out, act before.1 a = some (after.1, out) ∧ after.2 = before.2 ++ out := by
  obtain ⟨⟨next, out⟩, found, rfl⟩ := Option.map_eq_some_iff.mp acted
  exact ⟨out, found, rfl⟩

theorem recorded_runs (runs : Recorded act condition s s' transcript) :
    Runs (fun s a => (act s a).map Prod.fst) condition s s' := by
  refine Relation.ReflTransGen.lift Prod.fst ?_ _ _ runs
  intro before after step
  obtain ⟨a, admitted, acted⟩ := step
  obtain ⟨out, found, _⟩ := recorded_some acted
  exact ⟨a, admitted, by simp [found]⟩

theorem exists_recorded (runs : Runs (fun s a => (act s a).map Prod.fst) condition s s') :
    ∃ transcript, Recorded act condition s s' transcript := by
  induction runs with
  | refl => exact ⟨[], Relation.ReflTransGen.refl⟩
  | tail _ step ih =>
    obtain ⟨transcript, before⟩ := ih
    obtain ⟨a, admitted, acted⟩ := step
    obtain ⟨after, found, rfl⟩ := Option.map_eq_some_iff.mp acted
    refine ⟨transcript ++ after.2, before.tail ⟨a, admitted, ?_⟩⟩
    rw [recorded, found, Option.map_some]

/-- When the output of every action means operations of the abstract system, so does the
    transcript of every run. The bound is on the whole transcript. -/
theorem transcript_simulates {means : O → Op → Prop} {step : Op → T → T → Prop} {t : T}
    (bound : List O → Prop) (bound_left : ∀ first second, bound (first ++ second) → bound first)
    (R : List O → S → T → Prop) (start : R [] s t)
    (simulates : ∀ {earlier before after out a t}, bound (earlier ++ out) →
      R earlier before t → condition before a → act before a = some (after, out) →
      ∃ ops t', List.Forall₂ means out ops ∧ Leads step ops t t' ∧ R (earlier ++ out) after t')
    (runs : Recorded act condition s s' transcript) (bounded : bound transcript) :
    ∃ ops t', List.Forall₂ means transcript ops ∧ Leads step ops t t' ∧ R transcript s' t' := by
  refine run_invariant (fun now : S × List O => bound now.2 →
    ∃ ops t', List.Forall₂ means now.2 ops ∧ Leads step ops t t' ∧ R now.2 now.1 t')
    (fun _ => ⟨[], t, .nil, rfl, start⟩) ?_ runs bounded
  intro a before after _ ih admitted acted bounded
  obtain ⟨out, found, written⟩ := recorded_some acted
  rw [written] at bounded ⊢
  obtain ⟨ops, t', said, leads, related⟩ := ih (bound_left _ _ bounded)
  obtain ⟨more, t'', said', leads', related'⟩ := simulates bounded related admitted found
  exact ⟨ops ++ more, t'', List.rel_append said said', leads_trans leads leads', related'⟩

section Parts
variable {means : O → Op → Prop} {before after : List O} {o : O} {ops : List Op}

theorem meant_split (meant : List.Forall₂ means (before ++ o :: after) ops) :
    ∃ earlier op later, ops = earlier ++ op :: later ∧ List.Forall₂ means before earlier ∧
      means o op ∧ List.Forall₂ means after later := by
  induction before generalizing ops with
  | nil =>
    obtain ⟨op, later, first, rest, rfl⟩ := List.forall₂_cons_left_iff.mp meant
    exact ⟨[], op, later, rfl, .nil, first, rest⟩
  | cons p before ih =>
    obtain ⟨op, rest, first, tail, rfl⟩ := List.forall₂_cons_left_iff.mp meant
    obtain ⟨earlier, op', later, rfl, heads, here, tails⟩ := ih tail
    exact ⟨op :: earlier, op', later, rfl, .cons first heads, here, tails⟩

theorem meant_by {op : Op} (meant : List.Forall₂ means before ops) (member : op ∈ ops) :
    ∃ o ∈ before, means o op := by
  induction meant with
  | nil => cases member
  | cons first _ ih =>
    rcases List.mem_cons.mp member with rfl | later
    · exact ⟨_, List.mem_cons_self, first⟩
    · obtain ⟨o, known, here⟩ := ih later
      exact ⟨o, List.mem_cons_of_mem _ known, here⟩

/-- When each output means something, so do all of them. -/
theorem exists_meant (each : ∀ o ∈ before, ∃ op, means o op) :
    ∃ ops, List.Forall₂ means before ops := by
  induction before with
  | nil => exact ⟨[], .nil⟩
  | cons o before ih =>
    obtain ⟨op, first⟩ := each o List.mem_cons_self
    obtain ⟨ops, rest⟩ := ih fun o' member => each o' (List.mem_cons_of_mem o member)
    exact ⟨op :: ops, .cons first rest⟩

theorem meant_filter (keep : O → Bool) (keep' : Op → Bool)
    (meant : List.Forall₂ means before ops) (same : ∀ o op, means o op → keep o = keep' op) :
    List.Forall₂ means (before.filter keep) (ops.filter keep') := by
  induction meant with
  | nil => exact .nil
  | @cons o op _ _ first _ ih =>
    have agree := same o op first
    cases kept : keep o with
    | true =>
      rw [List.filter_cons_of_pos kept, List.filter_cons_of_pos (agree.symm.trans kept)]
      exact .cons first ih
    | false =>
      rw [List.filter_cons_of_neg (by simp [kept]),
        List.filter_cons_of_neg (by simp [← agree, kept])]
      exact ih

end Parts

end RecordedRuns
