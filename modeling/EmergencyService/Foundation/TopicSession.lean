import EmergencyService.Foundation.PendingOperations
import Mathlib.Data.Set.Insert

/- What a subscriber may ask of a broker, in which order. -/
namespace TopicSession
open PendingOperations

inductive Request (Topic Id : Type) where
  | subscribe (topic : Topic) (id : Id)
  | unsubscribe (id : Id)
  | publish (topic : Topic)
  | leave

/-- The subscriptions that are held, each under an id of its own. No id is used twice. -/
structure Session (Topic Id : Type) where
  held : Topic → Option Id
  used : Set Id
  ended : Prop
  held_used : ∀ topic id, held topic = some id → id ∈ used
  held_once : ∀ topic topic' id, held topic = some id → held topic' = some id → topic = topic'

variable {Topic Id : Type} [DecidableEq Topic]

namespace Session

def opened : Session Topic Id where
  held := fun _ => none
  used := ∅
  ended := False
  held_used := by simp
  held_once := by simp

def subscribe (s : Session Topic Id) (topic : Topic) (id : Id) (fresh : id ∉ s.used) :
    Session Topic Id where
  held := Function.update s.held topic (some id)
  used := insert id s.used
  ended := s.ended
  held_used := by
    intro t i held
    by_cases here : t = topic
    · simp_all
    · rw [Function.update_of_ne here] at held
      exact Set.mem_insert_of_mem id (s.held_used t i held)
  held_once := by
    intro t t' i held held'
    have other : ∀ {t}, Function.update s.held topic (some id) t = some i → t ≠ topic →
        s.held t = some i := by
      intro t held away
      rwa [Function.update_of_ne away] at held
    by_cases here : t = topic
    · by_cases here' : t' = topic
      · rw [here, here']
      · have again := s.held_used t' i (other held' here')
        simp_all
    · have again := s.held_used t i (other held here)
      by_cases here' : t' = topic
      · simp_all
      · exact s.held_once t t' i (other held here) (other held' here')

def unsubscribe (s : Session Topic Id) (topic : Topic) : Session Topic Id where
  held := Function.update s.held topic none
  used := s.used
  ended := s.ended
  held_used := by
    intro t id held
    by_cases here : t = topic
    · simp_all
    · rw [Function.update_of_ne here] at held
      exact s.held_used t id held
  held_once := by
    intro t t' id held held'
    by_cases here : t = topic
    · simp_all
    · by_cases here' : t' = topic
      · simp_all
      · rw [Function.update_of_ne here] at held
        rw [Function.update_of_ne here'] at held'
        exact s.held_once t t' id held held'

def leave (s : Session Topic Id) : Session Topic Id := { s with ended := True }

end Session

open Session

inductive Allowed : Request Topic Id → Session Topic Id → Session Topic Id → Prop
  | subscribe {s : Session Topic Id} {topic id} (running : ¬ s.ended) (free : s.held topic = none)
      (fresh : id ∉ s.used) : Allowed (.subscribe topic id) s (s.subscribe topic id fresh)
  | unsubscribe {s : Session Topic Id} {topic id} (running : ¬ s.ended)
      (held : s.held topic = some id) : Allowed (.unsubscribe id) s (s.unsubscribe topic)
  | publish {s : Session Topic Id} {topic id} (running : ¬ s.ended)
      (held : s.held topic = some id) : Allowed (.publish topic) s s
  | leave {s : Session Topic Id} (running : ¬ s.ended) : Allowed .leave s s.leave

def subscribed : List (Request Topic Id) → List Id
  | [] => []
  | .subscribe _ id :: rest => id :: subscribed rest
  | _ :: rest => subscribed rest

def unsubscribed : List (Request Topic Id) → List Id
  | [] => []
  | .unsubscribe id :: rest => id :: unsubscribed rest
  | _ :: rest => unsubscribed rest

variable {request : Request Topic Id} {requests before after : List (Request Topic Id)}
  {s s' : Session Topic Id} {topic : Topic} {id : Id}

theorem allowed_used (allowed : Allowed request s s') (known : id ∈ s.used) : id ∈ s'.used := by
  cases allowed with
  | subscribe running free fresh => exact Set.mem_insert_of_mem _ known
  | unsubscribe running held => exact known
  | publish running held => exact known
  | leave running => exact known

theorem allowed_gone (allowed : Allowed request s s') (known : id ∈ s.used)
    (gone : ∀ topic, s.held topic ≠ some id) : ∀ topic, s'.held topic ≠ some id := by
  intro topic held
  cases allowed with
  | @subscribe _ topic' id' running free fresh =>
    change Function.update s.held topic' (some id') topic = some id at held
    by_cases here : topic = topic'
    · rw [here, Function.update_self] at held
      cases held
      exact fresh known
    · rw [Function.update_of_ne here] at held
      exact gone topic held
  | @unsubscribe _ topic' id' running was =>
    change Function.update s.held topic' none topic = some id at held
    by_cases here : topic = topic'
    · rw [here, Function.update_self] at held
      cases held
    · rw [Function.update_of_ne here] at held
      exact gone topic held
  | publish running was => exact gone topic held
  | leave running => exact gone topic held

theorem trace_fresh (trace : Leads Allowed requests s s') (known : id ∈ s.used) :
    id ∉ subscribed requests := by
  induction requests generalizing s with
  | nil => simp [subscribed]
  | cons request rest ih =>
    obtain ⟨next, allowed, later⟩ := trace
    have onward := ih later (allowed_used allowed known)
    cases allowed with
    | subscribe running free fresh =>
      intro member
      rcases List.mem_cons.mp member with rfl | member
      · exact fresh known
      · exact onward member
    | unsubscribe running held => exact onward
    | publish running held => exact onward
    | leave running => exact onward

theorem trace_gone (trace : Leads Allowed requests s s') (known : id ∈ s.used)
    (gone : ∀ topic, s.held topic ≠ some id) :
    id ∉ unsubscribed requests ∧ ∀ topic, s'.held topic ≠ some id := by
  induction requests generalizing s with
  | nil =>
    obtain rfl := leads_nil.mp trace
    exact ⟨by simp [unsubscribed], gone⟩
  | cons request rest ih =>
    obtain ⟨next, allowed, later⟩ := trace
    have onward := ih later (allowed_used allowed known) (allowed_gone allowed known gone)
    cases allowed with
    | subscribe running free fresh => exact onward
    | @unsubscribe _ topic id' running held =>
      have other : id ≠ id' := by
        rintro rfl
        exact gone topic held
      exact ⟨by simp [unsubscribed, other, onward.1], onward.2⟩
    | publish running held => exact onward
    | leave running => exact onward

theorem unsubscribe_gone (held : s.held topic = some id) (t : Topic) :
    (s.unsubscribe topic).held t ≠ some id := by
  intro again
  change Function.update s.held topic none t = some id at again
  by_cases here : t = topic
  · simp_all
  · rw [Function.update_of_ne here] at again
    exact here (s.held_once t topic id again held)

theorem subscribed_nodup (trace : Leads Allowed requests s s') : (subscribed requests).Nodup := by
  induction requests generalizing s with
  | nil => simp [subscribed]
  | cons request rest ih =>
    obtain ⟨next, allowed, later⟩ := trace
    cases allowed with
    | subscribe running free fresh =>
      exact List.nodup_cons.mpr ⟨trace_fresh later (Set.mem_insert _ _), ih later⟩
    | unsubscribe running held => exact ih later
    | publish running held => exact ih later
    | leave running => exact ih later

/-- What is held was held from the start or has been asked for, and has not been given up
    since. -/
theorem held_asked (trace : Leads Allowed requests s s') (held : s'.held topic = some id) :
    (s.held topic = some id ∨ Request.subscribe topic id ∈ requests) ∧
      id ∉ unsubscribed requests := by
  induction requests generalizing s with
  | nil =>
    obtain rfl := leads_nil.mp trace
    exact ⟨Or.inl held, by simp [unsubscribed]⟩
  | cons request rest ih =>
    obtain ⟨next, allowed, later⟩ := trace
    obtain ⟨source, kept⟩ := ih later
    cases allowed with
    | @subscribe _ topic' id' running free fresh =>
      refine ⟨?_, kept⟩
      rcases source with earlier | member
      · change Function.update s.held topic' (some id') topic = some id at earlier
        by_cases here : topic = topic'
        · rw [here, Function.update_self] at earlier
          cases earlier
          exact Or.inr (by simp [here])
        · rw [Function.update_of_ne here] at earlier
          exact Or.inl earlier
      · exact Or.inr (List.mem_cons_of_mem _ member)
    | @unsubscribe _ topic' id' running was =>
      have other : id ≠ id' := by
        rintro rfl
        exact (trace_gone later (s.held_used topic' id was) (unsubscribe_gone was)).2 topic held
      refine ⟨?_, by simp [unsubscribed, other, kept]⟩
      rcases source with earlier | member
      · change Function.update s.held topic' none topic = some id at earlier
        by_cases here : topic = topic'
        · rw [here, Function.update_self] at earlier
          cases earlier
        · rw [Function.update_of_ne here] at earlier
          exact Or.inl earlier
      · exact Or.inr (List.mem_cons_of_mem _ member)
    | publish running was => exact ⟨source.imp_right (List.mem_cons_of_mem _), kept⟩
    | leave running => exact ⟨source.imp_right (List.mem_cons_of_mem _), kept⟩

theorem over_nothing (trace : Leads Allowed requests s s') (ended : s.ended) : requests = [] := by
  cases requests with
  | nil => rfl
  | cons request rest =>
    obtain ⟨next, allowed, later⟩ := trace
    cases allowed <;> contradiction

section Opened
variable (trace : Leads Allowed (before ++ request :: after) opened s)
include trace

/-- A subscription that is given up has been asked for, and not been given up before. -/
theorem unsubscribe_asked (asks : request = .unsubscribe id) :
    (∃ topic, Request.subscribe topic id ∈ before) ∧ id ∉ unsubscribed before := by
  obtain ⟨now, first, next, allowed, later⟩ := leads_split trace
  subst asks
  cases allowed with
  | @unsubscribe _ topic _ running held =>
    obtain ⟨source, kept⟩ := held_asked first held
    exact ⟨⟨topic, source.resolve_left (by simp [opened])⟩, kept⟩

theorem publish_asked (asks : request = .publish topic) :
    ∃ id, Request.subscribe topic id ∈ before ∧ id ∉ unsubscribed before := by
  obtain ⟨now, first, next, allowed, later⟩ := leads_split trace
  subst asks
  cases allowed with
  | publish running held =>
    obtain ⟨source, kept⟩ := held_asked first held
    exact ⟨_, source.resolve_left (by simp [opened]), kept⟩

theorem leave_last (asks : request = .leave) : after = [] := by
  obtain ⟨now, first, next, allowed, later⟩ := leads_split trace
  subst asks
  cases allowed with
  | leave running => exact over_nothing later trivial

end Opened

end TopicSession
