import EmergencyService.Foundation.PendingOperations
import Mathlib.Data.Set.Insert

/- A broker of topics: who has an account, who is online, which clients are there, and
   what each of them has subscribed to. -/
namespace TopicBroker
open PendingOperations

inductive Operation (Client User Secret Topic Id Body : Type) where
  | join (c : Client)
  | login (c : Client) (u : User) (p : Secret)
  | logout (c : Client) (u : User)
  | subscribe (c : Client) (t : Topic) (i : Id)
  | unsubscribe (c : Client) (t : Topic) (i : Id)
  | publish (c : Client) (t : Topic) (body : Body) (receivers : List Client)
  | close (c : Client)

/-- A user can be online for a client that has gone; a subscription cannot outlive its
    client. -/
structure Broker (Client User Secret Topic Id : Type) where
  accounts : User → Option Secret
  online : User → Option Client
  known : Set Client
  joined : Set Client
  subs : Client → Topic → Option Id
  joined_known : joined ⊆ known
  online_known : ∀ u c, online u = some c → c ∈ known
  online_account : ∀ u, online u ≠ none → accounts u ≠ none
  subs_joined : ∀ c t, subs c t ≠ none → c ∈ joined

variable {Client User Secret Topic Id Body : Type}

namespace Broker

def opened : Broker Client User Secret Topic Id where
  accounts := fun _ => none
  online := fun _ => none
  known := ∅
  joined := ∅
  subs := fun _ _ => none
  joined_known := fun _ member => member
  online_known := by simp
  online_account := by simp
  subs_joined := by simp

variable [DecidableEq Client] [DecidableEq User] [DecidableEq Topic]
  (b : Broker Client User Secret Topic Id)

def join (c : Client) : Broker Client User Secret Topic Id where
  accounts := b.accounts
  online := b.online
  known := insert c b.known
  joined := insert c b.joined
  subs := b.subs
  joined_known := Set.insert_subset_insert b.joined_known
  online_known := fun u c' held => Set.mem_insert_of_mem c (b.online_known u c' held)
  online_account := b.online_account
  subs_joined := fun c' t held => Set.mem_insert_of_mem c (b.subs_joined c' t held)

def login (c : Client) (u : User) (p : Secret) (here : c ∈ b.joined) :
    Broker Client User Secret Topic Id where
  accounts := Function.update b.accounts u (some p)
  online := Function.update b.online u (some c)
  known := b.known
  joined := b.joined
  subs := b.subs
  joined_known := b.joined_known
  online_known := by
    intro u' c' held
    by_cases own : u' = u
    · subst own
      rw [Function.update_self] at held
      cases held
      exact b.joined_known here
    · rw [Function.update_of_ne own] at held
      exact b.online_known u' c' held
  online_account := by
    intro u' held
    by_cases own : u' = u
    · subst own
      simp
    · rw [Function.update_of_ne own] at held ⊢
      exact b.online_account u' held
  subs_joined := b.subs_joined

def logout (u : User) : Broker Client User Secret Topic Id where
  accounts := b.accounts
  online := Function.update b.online u none
  known := b.known
  joined := b.joined
  subs := b.subs
  joined_known := b.joined_known
  online_known := by
    intro u' c held
    by_cases own : u' = u
    · subst own
      simp at held
    · rw [Function.update_of_ne own] at held
      exact b.online_known u' c held
  online_account := by
    intro u' held
    by_cases own : u' = u
    · subst own
      simp at held
    · rw [Function.update_of_ne own] at held
      exact b.online_account u' held
  subs_joined := b.subs_joined

def subscribe (c : Client) (t : Topic) (i : Id) (here : c ∈ b.joined) :
    Broker Client User Secret Topic Id where
  accounts := b.accounts
  online := b.online
  known := b.known
  joined := b.joined
  subs := fun c' t' => if c' = c ∧ t' = t then some i else b.subs c' t'
  joined_known := b.joined_known
  online_known := b.online_known
  online_account := b.online_account
  subs_joined := by
    intro c' t' held
    by_cases own : c' = c ∧ t' = t
    · exact own.1 ▸ here
    · rw [if_neg own] at held
      exact b.subs_joined c' t' held

def unsubscribe (c : Client) (t : Topic) : Broker Client User Secret Topic Id where
  accounts := b.accounts
  online := b.online
  known := b.known
  joined := b.joined
  subs := fun c' t' => if c' = c ∧ t' = t then none else b.subs c' t'
  joined_known := b.joined_known
  online_known := b.online_known
  online_account := b.online_account
  subs_joined := by
    intro c' t' held
    by_cases own : c' = c ∧ t' = t
    · simp [own] at held
    · rw [if_neg own] at held
      exact b.subs_joined c' t' held

def close (c : Client) : Broker Client User Secret Topic Id where
  accounts := b.accounts
  online := b.online
  known := b.known
  joined := b.joined \ {c}
  subs := fun c' t => if c' = c then none else b.subs c' t
  joined_known := fun _ member => b.joined_known member.1
  online_known := b.online_known
  online_account := b.online_account
  subs_joined := by
    intro c' t held
    by_cases own : c' = c
    · simp [own] at held
    · rw [if_neg own] at held
      exact ⟨b.subs_joined c' t held, own⟩

end Broker

open Broker

variable [DecidableEq Client] [DecidableEq User] [DecidableEq Topic]

/-- What the broker does. A client that has gone does not come back; a user is online for
    one client at a time and with the passcode of the account; a publication of a
    subscriber goes to all the subscribers of the topic, to each of them once. -/
inductive Allowed : Operation Client User Secret Topic Id Body →
    Broker Client User Secret Topic Id → Broker Client User Secret Topic Id → Prop
  | join {b c} (fresh : c ∉ b.known) : Allowed (.join c) b (b.join c)
  | login {b c u p} (here : c ∈ b.joined) (free : b.online u = none)
      (right : ∀ q, b.accounts u = some q → q = p) :
      Allowed (.login c u p) b (b.login c u p here)
  | logout {b c u} (held : b.online u = some c) : Allowed (.logout c u) b (b.logout u)
  | subscribe {b c t i} (here : c ∈ b.joined) (absent : b.subs c t = none) :
      Allowed (.subscribe c t i) b (b.subscribe c t i here)
  | unsubscribe {b c t i} (held : b.subs c t = some i) :
      Allowed (.unsubscribe c t i) b (b.unsubscribe c t)
  | publish {b c t body receivers} (member : b.subs c t ≠ none)
      (all : ∀ r, r ∈ receivers ↔ b.subs r t ≠ none) (once : receivers.Nodup) :
      Allowed (.publish c t body receivers) b b
  | close {b c} (here : c ∈ b.joined) : Allowed (.close c) b (b.close c)

section History
variable {b b' : Broker Client User Secret Topic Id}
  {op : Operation Client User Secret Topic Id Body}
  {ops before after : List (Operation Client User Secret Topic Id Body)}

/-- What an operation makes of a client's subscription to a topic. -/
def subscription (c : Client) (t : Topic) (now : Option Id) :
    Operation Client User Secret Topic Id Body → Option Id
  | .subscribe c' t' i => if c = c' ∧ t = t' then some i else now
  | .unsubscribe c' t' _ => if c = c' ∧ t = t' then none else now
  | .close c' => if c = c' then none else now
  | _ => now

end History

end TopicBroker
