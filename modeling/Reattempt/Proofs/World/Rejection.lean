import Reattempt.Outcome.Expect
import Reattempt.Proofs.Run.Aftermath
import Reattempt.Proofs.World.Custody
import Reattempt.Proofs.World.Failures

/-! # Rejecting a type and finding it

A classifier that rejects a type looks at bare failures, and the look-up in an outcome looks at the
whole failure and below one layer. The two agree on all types but that of the layers. -/

namespace Reattempt

variable {σ φ α : Type}

namespace Config

variable {c : Config σ φ α} {p q : Phase φ α} {m : Moment σ α} {ms : List (Moment σ α)}

/-- The reply of a classifier is the one that it gives in the state before it. -/
theorem Path.reply_of_classified {cause : Failure} {reply : Reply Bool} (h : c.Path p ms q)
    (hm : m ∈ ms) (ha : m.act = .classified cause reply) :
    ((c.classifier.judge cause).run m.before).1 = reply := by
  obtain ⟨front, back, rfl⟩ := List.append_of_mem hm
  obtain ⟨p', q', -, hr, -⟩ := h.split_cons
  cases hr with
  | accept hrun =>
      cases ha
      rw [hrun]
  | reject hrun _ =>
      cases ha
      rw [hrun]
  | _ => cases ha

theorem Informs.failure?_eq_none {cause : Failure} (h : c.Informs cause ms) (hm : m ∈ ms) :
    m.act.failure? = none := by
  unfold Informs at h
  cases hn : c.notifier with
  | none =>
      rw [hn] at h
      obtain rfl : ms = [] := h
      cases hm
  | some notifier =>
      rw [hn] at h
      obtain ⟨k, reply, rfl, hk, -⟩ := h
      obtain rfl := List.mem_singleton.mp hm
      rw [hk]
      rfl

end Config

theorem Failure.bare_of_kind_ne {f : Failure} (h : f.kind ≠ .completion) : f.bare = f := by
  cases f with
  | completion cause => exact absurd rfl h
  | _ => rfl

/-- A type other than that of the layers is found in a fatal outcome if the bare failure has it. -/
theorem RunFailure.find?_of_ne_completion {f : Failure} {kind : Kind} (h : kind ≠ .completion) :
    ((fatal f).find? kind).isSome ↔ f.bare.kind = kind := by
  rw [isSome_find?_fatal]
  constructor
  · rintro (hf | hb)
    · rwa [Failure.bare_of_kind_ne (hf ▸ h)]
    · exact hb
  · exact .inr

theorem RunFailure.eq_of_find?_fatal {f g : Failure} {kind : Kind}
    (h : (fatal f).find? kind = some g) : g = f ∨ g = f.bare := by
  rw [find?_fatal] at h
  split at h
  · exact .inl (Option.some.inj h).symm
  · split at h
    · exact .inr (Option.some.inj h).symm
    · cases h

theorem Classifier.judge_rejecting (kind : Kind) (cause : Failure) (s : σ) :
    (((rejecting kind).judge cause).run s).1 = .returned (cause.kind != kind) := rfl

theorem Custody.settled_of_told {r : Nat} {held drops : List (Ticket φ)}
    {settled : List (Outcome α)} {outcome : Outcome α}
    (h : Custody r held drops settled (some outcome)) (ho : outcome ≠ .error .interrupted) :
    settled = [outcome] := by
  cases h with
  | consumed _ _ => rfl
  | dropped _ _ => exact absurd rfl ho

namespace World

/-- A run that ended on a rejected failure settled with it after the classifier had rejected it. -/
theorem rejection_of_fatal (env : σ) (ms : List (Move σ φ α)) {r : Nat} {run : Run σ φ α}
    {f : Failure} (hr : ((World.init env).play ms).2.roster.runs[r]? = some run)
    (ho : ((World.init env).play ms).2.roster.outcome? r = some (.error (.fatal f))) :
    ∃ s reply, ((run.config.classifier.judge f.bare).run s).1 = reply ∧
      reply ≠ .returned true := by
  obtain ⟨q, path, -⟩ := exists_path env ms hr
  have hcustody := custody env ms (List.getElem?_eq_some_iff.mp hr).1
  rw [ho] at hcustody
  have hsettled := hcustody.settled_of_told nofun
  rw [settlementsOf, (balanced env ms).acts] at hsettled
  have hmem : (.error (.fatal f) : Outcome α) ∈
      (((World.init env).timeline r ms).map Moment.act).filterMap Act.outcome? := by
    rw [hsettled]
    exact List.mem_singleton_self _
  obtain ⟨a, ha, hout⟩ := List.mem_filterMap.mp hmem
  obtain rfl : a = .settled (.error (.fatal f)) := by
    cases a <;> cases hout
    rfl
  cases path.decides_settled ha with
  | rejection hclassified hne =>
      obtain ⟨m, hm, hact⟩ := List.mem_map.mp hclassified
      exact ⟨m.before, _, path.reply_of_classified hm hact, hne⟩

theorem kind_of_rejected (env : σ) (ms : List (Move σ φ α)) {r : Nat} {run : Run σ φ α}
    {kind : Kind} {f : Failure} (hr : ((World.init env).play ms).2.roster.runs[r]? = some run)
    (hc : run.config.classifier = .rejecting kind)
    (ho : ((World.init env).play ms).2.roster.outcome? r = some (.error (.fatal f))) :
    f.bare.kind = kind := by
  obtain ⟨s, reply, hreply, hne⟩ := rejection_of_fatal env ms hr ho
  rw [hc, Classifier.judge_rejecting] at hreply
  by_contra hkind
  exact hne (by simp [← hreply, hkind])

/-- What becomes of a failure in a run whose classifier rejects one type. -/
theorem rejecting_course (env : σ) (ms : List (Move σ φ α)) {r : Nat} {run : Run σ φ α}
    {kind : Kind} {front back : List (Moment σ α)} {m : Moment σ α} {f : Failure}
    (hr : ((World.init env).play ms).2.roster.runs[r]? = some run)
    (hc : run.config.classifier = .rejecting kind)
    (hm : (World.init env).timeline r ms = front ++ m :: back) (hf : m.act.failure? = some f) :
    ∃ notice, run.config.Informs f.bare notice ∧
      ((f.bare.kind = kind ∧
          back.map Moment.act = notice.map Moment.act ++
            [.classified f.bare (.returned false), .settled (.error (.fatal f))] ∧
          ((World.init env).play ms).2.roster.outcome? r = some (.error (.fatal f))) ∨
        f.bare.kind ≠ kind ∧ ∃ delay later,
          back.map Moment.act = notice.map Moment.act ++
            .classified f.bare (.returned true) :: .requested delay :: later) := by
  obtain ⟨notice, j, rest, reply, rfl, hnotice, hj, htrue, hfalse⟩ := failure_course env ms hr hm hf
  have hreply : reply = .returned (f.bare.kind != kind) := by
    have hanswer := congrArg Prod.fst hj.answer
    rw [hc, Classifier.judge_rejecting] at hanswer
    exact hanswer.symm
  refine ⟨notice, hnotice, ?_⟩
  by_cases hkind : f.bare.kind = kind
  · have hrejected : reply = .returned false := by simpa [hkind] using hreply
    obtain ⟨hrest, houtcome⟩ := hfalse (by simp [hrejected])
    exact .inl ⟨hkind, by simp [hj.act, hrejected, hrest], houtcome⟩
  · have haccepted : reply = .returned true := by rw [hreply, bne_iff_ne.mpr hkind]
    obtain ⟨delay, later, hrest⟩ := htrue haccepted
    exact .inr ⟨hkind, delay, later, by simp [hj.act, haccepted, hrest]⟩

/-- A failure that was rejected is the last one of its run. -/
theorem rejecting_of_earlier (env : σ) (ms : List (Move σ φ α)) {r : Nat} {run : Run σ φ α}
    {kind : Kind} {front back : List (Moment σ α)} {m k : Moment σ α} {f g : Failure}
    (hr : ((World.init env).play ms).2.roster.runs[r]? = some run)
    (hc : run.config.classifier = .rejecting kind)
    (hm : (World.init env).timeline r ms = front ++ m :: back) (hf : m.act.failure? = some f)
    (hk : k ∈ front) (hg : k.act.failure? = some g) : g.bare.kind ≠ kind := by
  intro hkind
  obtain ⟨before, between, rfl⟩ := List.append_of_mem hk
  have hsplit : (World.init env).timeline r ms = before ++ k :: (between ++ m :: back) := by
    rw [hm, List.append_assoc, List.cons_append]
  obtain ⟨notice, hnotice, ⟨-, hacts, -⟩ | ⟨hne, -⟩⟩ := rejecting_course env ms hr hc hsplit hg
  · -- after a rejection nothing fails any more, but the moment `m` does
    have hmem : m.act ∈ (between ++ m :: back).map Moment.act := by simp
    rw [hacts, List.mem_append] at hmem
    rcases hmem with hmem | hmem
    · obtain ⟨m', hm', hact⟩ := List.mem_map.mp hmem
      rw [← hact, hnotice.failure?_eq_none hm'] at hf
      cases hf
    · simp only [List.mem_cons, List.not_mem_nil, or_false] at hmem
      obtain hact | hact := hmem <;> rw [hact] at hf <;> cases hf
  · exact hne hkind

/-- In a run whose classifier rejects a type, a fatal outcome contains a failure of that type, and
the check of tests for it passes. Unless it is the type of completion layers, the run ends at the
first failure in which the type is found, and all earlier failures lead to another attempt. A type
is found in a fatal outcome if the failure or the bare failure has it, the former if both have. -/
theorem rejecting_agrees_with_find (env : σ) (ms : List (Move σ φ α)) (r : Nat) (run : Run σ φ α)
    (kind : Kind) (hr : ((World.init env).play ms).2.roster.runs[r]? = some run)
    (hc : run.config.classifier = .rejecting kind) :
    let seen := ((World.init env).play ms).1
    let w := ((World.init env).play ms).2
    let moments := (World.init env).timeline r ms
    (moments.map Moment.act = actsOf r seen ∧ ∃ q, run.config.Path .unstarted moments q) ∧
      (∀ e : RunFailure, w.roster.outcome? r = some (.error e) → e.isFatal = true →
        (e.find? kind).isSome = true ∧
          ∀ shape : α → Shape, Outcome.expectFatalOf shape kind (.error e) = .ok ()) ∧
      (kind ≠ .completion → ∀ front m back f, moments = front ++ m :: back →
        m.act.failure? = some f → ∃ notice, run.config.Informs f.bare notice ∧
          if ((RunFailure.fatal f).find? kind).isSome then
            back.map Moment.act = notice.map Moment.act ++
                [.classified f.bare (.returned false), .settled (.error (.fatal f))] ∧
              w.roster.outcome? r = some (.error (.fatal f)) ∧
              ∀ k ∈ front, ∀ g, k.act.failure? = some g → (RunFailure.fatal g).find? kind = none
          else ∃ delay later, back.map Moment.act = notice.map Moment.act ++
            .classified f.bare (.returned true) :: .requested delay :: later) ∧
      ∀ (f : Failure) (other : Kind),
        (((RunFailure.fatal f).find? other).isSome ↔ f.kind = other ∨ f.bare.kind = other) ∧
          (f.kind = other → (RunFailure.fatal f).find? other = some f) ∧
          ∀ g, (RunFailure.fatal f).find? other = some g → g = f ∨ g = f.bare := by
  intro seen w moments
  obtain ⟨q, path, -⟩ := exists_path env ms hr
  refine ⟨⟨((balanced env ms).acts r).symm, q, path⟩, ?_, ?_, ?_⟩
  · intro e ho he
    cases e with
    | fatal f =>
        have hfound := RunFailure.isSome_find?_fatal.mpr (.inr (kind_of_rejected env ms hr hc ho))
        exact ⟨hfound, fun shape => by simp [Outcome.expectFatalOf, hfound]⟩
    | cancelled session => cases he
    | interrupted => cases he
  · intro hne front m back f hm hf
    obtain ⟨notice, hnotice, hcourse⟩ := rejecting_course env ms hr hc hm hf
    refine ⟨notice, hnotice, ?_⟩
    obtain ⟨hkind, hacts, ho⟩ | ⟨hkind, hcourse⟩ := hcourse
    · rw [if_pos ((RunFailure.find?_of_ne_completion hne).mpr hkind)]
      refine ⟨hacts, ho, ?_⟩
      intro k hk g hg
      have hearlier := rejecting_of_earlier env ms hr hc hm hf hk hg
      rw [← Option.not_isSome_iff_eq_none, RunFailure.find?_of_ne_completion hne]
      exact hearlier
    · rwa [if_neg (mt (RunFailure.find?_of_ne_completion hne).mp hkind)]
  · intro f other
    refine ⟨RunFailure.isSome_find?_fatal, fun hf => ?_, fun g => RunFailure.eq_of_find?_fatal⟩
    rw [RunFailure.find?_fatal, if_pos hf]

/-- An operation that fails with a text when it is called first and panics from then on, with a
classifier that rejects panics. -/
def overloaded : Config Nat Nat Unit where
  action := "fetch"
  session := "s-1"
  operation := ⟨modifyGet fun calls => (.returned calls, calls + 1), fun call => pure <| .done <|
    if call = 0 then .returned (.error (.ofText "down")) else .panicked (.text "denied")⟩
  check := ⟨pure (.returned false)⟩
  scheduler := 0
  notifier := none
  classifier := .rejecting .panic
  backoff := .standard

def overloadedMoves : List (Move Nat Nat Unit) :=
  [.launch overloaded [] .kept, .poll 0 .kept, .poll 0 .kept]

/-- The first failure leads to another attempt, and the panic is found in the outcome. -/
theorem rejecting_overloaded :
    ((World.init 0).play overloadedMoves).2.roster.outcome? 0 =
        some (.error (.fatal (.completion (.panic "denied")))) ∧
      (RunFailure.fatal (.ofText "down")).find? .panic = none ∧
      Outcome.expectFatalOf (fun _ : Unit => .atom "()") .panic
        (.error (.fatal (.completion (.panic "denied")))) = .ok () := by
  have hrun : ((World.init 0).play overloadedMoves).2.roster.runs[0]? =
      some ⟨overloaded, [], .settled (.error (.fatal (.completion (.panic "denied")))), 1⟩ := rfl
  have htimeline : (World.init 0).timeline 0 overloadedMoves =
      [⟨0, .submitted, 0⟩, ⟨0, .checked (.returned false), 0⟩, ⟨0, .called (.returned ()), 1⟩,
        ⟨1, .polled (some (.returned (.error (.ofText "down")))), 1⟩,
        ⟨1, .classified (.ofText "down") (.returned true), 1⟩, ⟨1, .requested (.ofSecs 1), 1⟩,
        ⟨1, .checked (.returned false), 1⟩, ⟨1, .called (.returned ()), 2⟩] ++
      ⟨2, .polled (some (.panicked (.text "denied"))), 2⟩ ::
      [⟨2, .classified (.panic "denied") (.returned false), 2⟩,
        ⟨2, .settled (.error (.fatal (.completion (.panic "denied")))), 2⟩] := rfl
  obtain ⟨-, hfatal, hfailures, -⟩ :=
    rejecting_agrees_with_find 0 overloadedMoves 0 _ .panic hrun rfl
  obtain ⟨notice, -, hcourse⟩ := hfailures (by decide) _ _ _ _ htimeline rfl
  have hfound : ((RunFailure.fatal (.completion (.ofPayload (.text "denied")))).find?
      .panic).isSome = true := RunFailure.isSome_find?_fatal.mpr (.inr rfl)
  rw [if_pos hfound] at hcourse
  obtain ⟨-, ho, hearlier⟩ := hcourse
  refine ⟨ho, ?_, (hfatal _ ho rfl).2 _⟩
  exact hearlier ⟨1, .polled (some (.returned (.error (.ofText "down")))), 1⟩ (by simp) _ rfl

end World

end Reattempt
