import EmergencyService.Frames.EncoderRoundTrip
import EmergencyService.Server.StompProtocolImpl

/- A MESSAGE frame that is encoded and parsed again, any number of times. Only the newlines
   at the end of its body change. -/
namespace RelayHops
open JavaRuntime JavaFrame FrameExchange FrameShape FrameStream SeparatorRuns EncoderRoundTrip
open StompProtocolImpl

/-- The frame that `process` builds for a SEND, with any texts for its headers. -/
def relayFrame (subscription messageID destination body : Text) : StompFrame :=
  ⟨"MESSAGE", put (put (put ∅ "subscription" subscription) "message-id" messageID)
    "destination" destination, body⟩

theorem message_frame_relayed (subscriptionID messageID : Int) (channel body : Text) :
    messageFrame subscriptionID messageID channel body =
      relayFrame (decimal subscriptionID) (decimal messageID) channel body := rfl

def hop (o : IterationOrder Text) (f : StompFrame) : Except JavaException StompFrame :=
  StompFrame.ofText (f.createFrame o)

def hops : List (IterationOrder Text) → StompFrame → Except JavaException StompFrame
  | [], f => .ok f
  | o :: orders, f => (hop o f).bind (hops orders)

/-- What a frame keeps from hop to hop. -/
structure Carried (f g : StompFrame) : Prop where
  command : g.command = f.command
  headers : ∀ k, g.headers.lookup k = f.headers.lookup k
  squeezed : squeezed '\n' g.body = g.body
  body : trimEnd '\n' g.body = trimEnd '\n' f.body

section Hops
variable {f g : StompFrame}

theorem carried_clean (carried : Carried f g) (clean : CleanHeaders f.headers) :
    CleanHeaders g.headers := by
  intro k v found
  rw [carried.headers] at found
  exact clean k v found

theorem hop_carried (named : f.command ≠ []) (free : LineFree f.command)
    (clean : CleanHeaders f.headers) (carried : Carried f g) (o : IterationOrder Text) :
    ∃ g', hop o g = .ok g' ∧ Carried f g' := by
  rw [← carried.command] at named free
  obtain ⟨headers, parsed, same⟩ :=
    java_reads_java o named free (carried_clean carried clean)
  refine ⟨_, parsed, carried.command, fun k => (same k).trans (carried.headers k), ?_, ?_⟩
  · rw [glued_eq_squeezed]
    exact squeezed_idem
  · rw [trim_end_glued, ← trim_end_squeezed, carried.squeezed, carried.body]

theorem hops_carried (named : f.command ≠ []) (free : LineFree f.command)
    (clean : CleanHeaders f.headers) (carried : Carried f g)
    (orders : List (IterationOrder Text)) :
    ∃ g', hops orders g = .ok g' ∧ Carried f g' := by
  induction orders generalizing g with
  | nil => exact ⟨g, rfl, carried⟩
  | cons o orders ih =>
    obtain ⟨next, first, kept⟩ := hop_carried named free clean carried o
    obtain ⟨last, later, done⟩ := ih kept
    refine ⟨last, ?_, done⟩
    unfold hops
    rw [first]
    exact later

theorem client_carried (named : f.command ≠ []) (free : LineFree f.command)
    (clean : CleanHeaders f.headers) (carried : Carried f g) (o : IterationOrder Text) :
    ∃ h body, CppFrame.StompFrame.ofText (g.createFrame o ++ [nul]) = .ok h ∧
      h.command = f.command ∧ (∀ k, h.headers.lookup k = f.headers.lookup k) ∧
      h.body = body ++ [nul] ∧ trimEnd '\n' body = trimEnd '\n' f.body := by
  rw [← carried.command] at named free
  obtain ⟨headers, parsed, same⟩ :=
    cpp_reads_java o named free (carried_clean carried clean)
  refine ⟨_, glued (bodyText g.body), parsed, carried.command,
    fun k => (same k).trans (carried.headers k), ?_, ?_⟩
  · rw [glued_eq_squeezed, glued_eq_squeezed]
    exact squeeze_concat (by decide) 0 _
  · rw [trim_end_glued, ← trim_end_squeezed, carried.squeezed, carried.body]

end Hops

theorem relay_headers_clean {subscription messageID destination body : Text}
    (subscriptionFree : LineFree subscription) (messageFree : LineFree messageID)
    (destinationFree : LineFree destination) :
    CleanHeaders (relayFrame subscription messageID destination body).headers := by
  have clean : ∀ {title value : Text}, ':' ∉ title ∧ LineFree title → LineFree value →
      CleanHeader (title, value) := fun named free => ⟨named.1, named.2, free⟩
  refine clean_insert (clean_insert (clean_insert ?_ ?_) ?_) ?_
  · intro k v found
    simp at found
  · exact clean (by decide) subscriptionFree
  · exact clean (by decide) messageFree
  · exact clean (by decide) destinationFree

/-- The MESSAGE frame for a body that the server has parsed, after any number of hops: the
    headers are the same, and the body is, without the newlines at its end. -/
theorem relay_keeps_body {text : Text} {f : StompFrame} (parsed : StompFrame.ofText text = .ok f)
    {subscription messageID destination : Text} (subscriptionFree : LineFree subscription)
    (messageFree : LineFree messageID) (destinationFree : LineFree destination)
    (orders : List (IterationOrder Text)) :
    ∃ g, hops orders (relayFrame subscription messageID destination f.body) = .ok g ∧
      g.command = "MESSAGE".toList ∧
      (∀ k, g.headers.lookup k =
        (relayFrame subscription messageID destination f.body).headers.lookup k) ∧
      trimEnd '\n' g.body = trimEnd '\n' f.body ∧
      ∀ o : IterationOrder Text, ∃ h body,
        CppFrame.StompFrame.ofText (g.createFrame o ++ [nul]) = .ok h ∧
        h.command = "MESSAGE".toList ∧
        (∀ k, h.headers.lookup k =
          (relayFrame subscription messageID destination f.body).headers.lookup k) ∧
        h.body = body ++ [nul] ∧ trimEnd '\n' body = trimEnd '\n' f.body := by
  have clean : CleanHeaders (relayFrame subscription messageID destination f.body).headers :=
    relay_headers_clean subscriptionFree messageFree destinationFree
  have named : ("MESSAGE".toList : Text) ≠ [] := by decide
  have free : LineFree "MESSAGE" := by decide
  have normal : squeezed '\n' f.body = f.body := parsed_body_squeezed parsed
  have start : Carried (relayFrame subscription messageID destination f.body)
      (relayFrame subscription messageID destination f.body) :=
    ⟨rfl, fun _ => rfl, normal, rfl⟩
  obtain ⟨g, run, carried⟩ := hops_carried named free clean start orders
  exact ⟨g, run, carried.command, carried.headers, carried.body,
    fun o => client_carried named free clean carried o⟩

/-- The frame that `process` itself makes of a body, relayed twice. -/
theorem fire_relayed : ∃ f g,
    StompFrame.ofText "SEND\ndestination:police\n\nfire\n\n\nhelp\n" = .ok f ∧
      hops [.stored, .stored] (messageFrame 7 0 "police" f.body) = .ok g ∧
      g.command = "MESSAGE".toList ∧ trimEnd '\n' g.body = trimEnd '\n' f.body := by
  have accepted : ∃ f,
      StompFrame.ofText "SEND\ndestination:police\n\nfire\n\n\nhelp\n" = .ok f :=
    (java_accepts_iff _).mpr (by decide)
  obtain ⟨f, parsed⟩ := accepted
  have police : LineFree "police" := by decide
  obtain ⟨g, run, command, _, body, _⟩ := relay_keeps_body parsed (decimal_line_free 7)
    (decimal_line_free 0) police [.stored, .stored]
  rw [← message_frame_relayed] at run
  exact ⟨f, g, parsed, run, command, body⟩

end RelayHops
