import Reattempt.Proofs.Duration.Text
import Reattempt.Proofs.Run.Reports

/-! # The words of the log

How urgent each entry of a run is, what it says and which fields it has, word for word. -/

namespace Reattempt

variable {σ φ α : Type}

/-- What is said of a failure. A layer that it has come through is named first. -/
inductive Failure.Said : Failure → String → Prop where
  | bare {f : Failure} (h : f.bare = f) : Said f f.text
  | layered (cause : Failure) :
      Said (.completion cause) ("asynchronous completion failed: " ++ cause.text)

theorem Failure.said_text (f : Failure) : f.Said f.text := by
  cases f with
  | completion cause => exact .layered cause
  | _ => exact .bare rfl

namespace Config

/-- The events that a run may write, with the level, the message and the fields of each. -/
inductive Wording (c : Config σ φ α) :
    Log.Event → Log.Level → String → List (String × Log.Value) → Prop where
  | clientGone : Wording c .clientGone .debug "client is gone, abandoning" []
  | starting : Wording c .starting .debug "starting attempt" []
  | succeeded : Wording c .succeeded .debug "attempt succeeded" []
  | checkPanicked (payload : Payload) :
      Wording c (.checkPanicked (Failure.ofPayload payload).text) .error
        "cancellation check panicked, treating the client as gone"
        [("error", .text ("panicked: " ++ payload.message))]
  | notifierPanicked (payload : Payload) :
      Wording c (.notifierPanicked (Failure.ofPayload payload).text payload.message) .warn
        ("error notifier panicked: " ++ payload.message ++
          ". The notifier runs on the retry scheduler, so " ++
          "the panic never reaches the caller; handle the failure inside the notifier instead.")
        [("error", .text ("panicked: " ++ payload.message))]
  | classifierPanicked (payload : Payload) :
      Wording c (.classifierPanicked (Failure.ofPayload payload).text) .error
        "error classifier panicked, treating the failure as fatal"
        [("error", .text ("panicked: " ++ payload.message))]
  | failed {f : Failure} {said : String} (h : f.Said said) :
      Wording c (.failed c.session c.action f.text) .error
        ("client <" ++ c.session ++ ">: " ++ "failed to <" ++ c.action ++ ">")
        [("error", .text said)]
  | permanentlyFailed {f : Failure} {said : String} (h : f.Said said) :
      Wording c (.permanentlyFailed c.session c.action f.text) .error
        ("client <" ++ c.session ++ ">: " ++ "permanently failed to <" ++ c.action ++ ">")
        [("error", .text said)]
  | waiting {d : Duration} {shown : String} (h : d.Shown shown) :
      Wording c (.waiting c.session c.action d) .info
        ("client <" ++ c.session ++ ">: " ++ "waiting " ++ shown ++ " before retrying to <" ++
          c.action ++ ">")
        [("delay_secs", .seconds d)]

/-- An event that a run may write and that has its words. -/
abbrev Worded (c : Config σ φ α) (event : Log.Event) : Prop :=
  c.Wording event event.level event.message event.fields

/-- What a run writes with an act has its words. -/
theorem worded_writes (c : Config σ φ α) (p : Phase φ α) (a : Act α) :
    ∀ event ∈ c.writes p a, c.Worded event := by
  cases a with
  | checked reply =>
      rcases reply with (_ | _) | payload
      · exact List.forall_mem_singleton.mpr .starting
      · exact List.forall_mem_singleton.mpr .clientGone
      · exact List.forall_mem_cons.mpr
          ⟨.checkPanicked payload, List.forall_mem_singleton.mpr .clientGone⟩
  | polled reply =>
      rcases reply with _ | ((f | value) | payload)
      · exact List.forall_mem_nil _
      · exact List.forall_mem_nil _
      · exact List.forall_mem_singleton.mpr .succeeded
      · exact List.forall_mem_nil _
  | notified cause reply =>
      cases reply with
      | returned _ => exact List.forall_mem_nil _
      | panicked payload => exact List.forall_mem_singleton.mpr (.notifierPanicked payload)
  | classified cause reply =>
      cases p with
      | reported n f =>
          rcases reply with (_ | _) | payload
          · exact List.forall_mem_singleton.mpr (.permanentlyFailed f.said_text)
          · exact List.forall_mem_cons.mpr ⟨.failed f.said_text,
              List.forall_mem_singleton.mpr (.waiting (Duration.shown_text _))⟩
          · exact List.forall_mem_cons.mpr ⟨.classifierPanicked payload,
              List.forall_mem_singleton.mpr (.permanentlyFailed f.said_text)⟩
      | _ => rcases reply with (_ | _) | payload <;> exact List.forall_mem_nil _
  | _ => exact List.forall_mem_nil _

theorem worded_chronicle (c : Config σ φ α) (parent : List Log.Span) (n : Nat) (f : Failure)
    (acts : List (Act α)) : ∀ entry ∈ c.chronicle parent n f acts, c.Worded entry.event := by
  induction acts generalizing n f with
  | nil => exact List.forall_mem_nil _
  | cons a acts ih =>
      refine List.forall_mem_append.mpr ⟨?_, ih _ _⟩
      exact List.forall_mem_map.mpr (c.worded_writes _ a)

end Config

end Reattempt
