import EmergencyService.Server.ServerRuns
import EmergencyService.Server.SubscriptionSweep

/- When `disconnect` frees the connection it is called for, and nothing else. -/
namespace DisconnectEffect
open JavaRuntime AtomicProgram MapCalls ConnectionsImpl HandlerThreads ServerRuns
open SubscriptionSweep

/-- The call returned, the connection holds nothing any more, and the rest is as before. -/
structure FreesOnly (c : Nat) (s : ServerState) (result : Except JavaException Unit)
    (s' : ServerState) : Prop where
  returned : result = .ok ()
  login_gone : ∀ u, s'.loggedInUsers.lookup u ≠ some c
  subscriptions_gone : ∀ ch, s'.subscription ch (s.activeClients.lookup c) = none
  logins_kept : ∀ u c', c' ≠ c →
    (s'.loggedInUsers.lookup u = some c' ↔ s.loggedInUsers.lookup u = some c')
  subscriptions_kept : ∀ ch h, h ≠ s.activeClients.lookup c →
    s'.subscription ch h = s.subscription ch h
  users_kept : s'.users = s.users
  clients_kept : s'.activeClients = s.activeClients

def DisconnectFrees (w : Surroundings) (c : Nat) (s : ServerState) : Prop :=
  FreesOnly c s (run exec (disconnect w c) s).1 (run exec (disconnect w c) s).2

def SingleLogin (c : Nat) (s : ServerState) : Prop :=
  ∀ u u', s.loggedInUsers.lookup u = some c → s.loggedInUsers.lookup u' = some c → u = u'

/-- In every channel, the handler registered under the static counter is subscribed
    exactly when the handler of `c` is, and then they are the same. -/
def CountedIs (c : Nat) (s : ServerState) : Prop :=
  ∀ ch h, s.subscription ch h ≠ none → (h = s.counted ↔ h = s.activeClients.lookup c)

variable {w : Surroundings} {c : Nat} {s : ServerState}

theorem frees_of_conditions (single : SingleLogin c s) (last : ∀ ch, LastIfPresent w s ch)
    (own : CountedIs c s) : DisconnectFrees w c s := by
  obtain ⟨result, s', ran, effect⟩ := disconnect_run w c s
  have ok : result = .ok () := effect.quiet.mpr last
  have logins : s'.loggedInUsers = removeValue w.logins c s.loggedInUsers := by
    rw [effect.frame]
  have cleared := (remove_value_clears_iff w.logins c s.loggedInUsers).mpr single
  unfold DisconnectFrees
  rw [ran]
  constructor
  · exact ok
  · intro u
    rw [logins]
    exact cleared u
  · intro ch
    rcases effect.fewer ch (s.activeClients.lookup c) with gone | kept
    · exact gone
    · by_contra held
      rw [kept] at held
      have counted := (own ch _ held).mpr rfl
      rw [← kept, counted] at held
      exact held (effect.gone ok ch)
  · intro u c' other
    rw [logins]
    exact remove_value_other_iff w.logins c s.loggedInUsers other
  · intro ch h other
    by_cases counted : h = s.counted
    · subst counted
      have absent : s.subscription ch s.counted = none := by
        by_contra held
        exact other ((own ch _ held).mp rfl)
      rw [effect.gone ok ch, absent]
    · exact effect.others ch h counted
  · rw [effect.frame]
  · rw [effect.frame]

theorem conditions_of_frees (frees : DisconnectFrees w c s) :
    SingleLogin c s ∧ (∀ ch, LastIfPresent w s ch) ∧ CountedIs c s := by
  obtain ⟨result, s', ran, effect⟩ := disconnect_run w c s
  unfold DisconnectFrees at frees
  rw [ran] at frees
  have ok : result = .ok () := frees.returned
  have logins : s'.loggedInUsers = removeValue w.logins c s.loggedInUsers := by
    rw [effect.frame]
  refine ⟨?_, effect.quiet.mp ok, ?_⟩
  · apply (remove_value_clears_iff w.logins c s.loggedInUsers).mp
    intro u
    rw [← logins]
    exact frees.login_gone u
  · intro ch h held
    constructor
    · intro counted
      by_contra other
      have kept := frees.subscriptions_kept ch h other
      rw [counted, effect.gone ok ch] at kept
      exact held (counted ▸ kept.symm)
    · intro own
      by_contra other
      have kept := effect.others ch h other
      have gone := frees.subscriptions_gone ch
      rw [← own, kept] at gone
      exact held gone

/-- `disconnect` frees its connection and nothing else exactly when the connection holds
    at most one login, no iterator has keys left after the removal, and the handler under
    the counter is subscribed where that of the connection is, being the same. -/
theorem disconnect_frees_iff (w : Surroundings) (c : Nat) (s : ServerState) :
    DisconnectFrees w c s ↔
      SingleLogin c s ∧ (∀ ch, LastIfPresent w s ch) ∧ CountedIs c s := by
  constructor
  · exact conditions_of_frees
  · intro conditions
    obtain ⟨single, last, own⟩ := conditions
    exact frees_of_conditions single last own

/-- One connection that has subscribed to a channel; the counter is already past it. -/
def subscribedOnce : ServerState :=
  processed .plain 0 "SUBSCRIBE\ndestination:police\nid:1\nreceipt:0\n\n"
    (accepted ServerState.initial)

theorem disconnect_leaves_subscription :
    ReachableState subscribedOnce ∧ 0 ∈ subscribedOnce.activeClients ∧
      ¬ DisconnectFrees .plain 0 subscribedOnce := by
  refine ⟨?_, by decide, ?_⟩
  · have acted : Server.acts [.construct, .increment, .frame .plain 0
        "SUBSCRIBE\ndestination:police\nid:1\nreceipt:0\n\n"] Server.initial =
          some ⟨subscribedOnce, false⟩ := rfl
    exact acts_reachable acted
  · intro frees
    have gone := frees.subscriptions_gone "police"
    revert gone
    decide

end DisconnectEffect
