import Reattempt.Proofs.World.Sticky

/-! # What others do in the meantime

While a run is polled, other threads go on, and so does code that is run beside that of the run,
such as what receives its entries. All of them may change what is shared, at any moment. A run looks
at it through its callers' code only, so whatever is done between two answers of that code may be
put right behind the first of them. What others are going to do is a list that is given
beforehand. -/

namespace Reattempt

variable {σ φ α β : Type} {P : σ → Prop}

/-- What is shared, and what others will do to it: one effect each time that callers' code has
answered, as long as there are any. No effect loses the property. -/
structure Exposed (P : σ → Prop) where
  env : σ
  coming : List {effect : σ → σ // ∀ s, P s → P (effect s)}

/-- Others do what comes next. -/
def Exposed.next (s : Exposed P) : Exposed P :=
  match s.coming with
  | [] => s
  | effect :: coming => ⟨effect.1 s.env, coming⟩

theorem Exposed.keeps_next {s : Exposed P} (hs : P s.env) : P s.next.env := by
  unfold Exposed.next
  split
  · exact hs
  · next effect coming _ => exact effect.2 _ hs

/-- Code after whose answer others do what comes next. Where nothing comes, it is the code alone. -/
def expose (x : StateM σ β) : StateM (Exposed P) β := fun s =>
  ((x.run s.env).1, ({ s with env := (x.run s.env).2 } : Exposed P).next)

theorem Preserves.expose {x : StateM σ β} (h : Preserves P x) :
    Preserves (fun s : Exposed P => P s.env) (expose x) :=
  fun s hs => Exposed.keeps_next (h s.env hs)

/-- The same configuration where others come in between. -/
def Config.exposed (c : Config σ φ α) : Config (Exposed P) φ α where
  action := c.action
  session := c.session
  operation := ⟨expose c.operation.call, fun operation => expose (c.operation.poll operation)⟩
  check := ⟨expose c.check.poll⟩
  scheduler := c.scheduler
  notifier := c.notifier.map fun notifier => ⟨fun cause => expose (notifier.consumer cause)⟩
  classifier := ⟨fun cause => expose (c.classifier.judge cause)⟩
  backoff := c.backoff

theorem Config.Heeds.exposed {c : Config σ φ α} {flipped : σ → Bool} (h : c.Heeds flipped) :
    (c.exposed : Config (Exposed P) φ α).Heeds fun s => flipped s.env :=
  fun s => h s.env

theorem Config.Keeps.exposed {c : Config σ φ α} (h : c.Keeps P) :
    c.exposed.Keeps fun s : Exposed P => P s.env where
  check := h.check.expose
  call := h.call.expose
  poll operation := (h.poll operation).expose
  notifier notifier cause hn := by
    obtain ⟨own, hown, rfl⟩ := Option.map_eq_some_iff.mp hn
    exact (h.notifier own cause hown).expose
  classifier cause := (h.classifier cause).expose

/-- The same move where others come in between, if it is the start of a run. -/
def Move.exposed : Move σ φ α → Move (Exposed P) φ α
  | launch config spans fate => launch config.exposed spans fate
  | poll place fate => poll place fate
  | discard place => discard place
  | share run => share run
  | release run => release run
  | outside effect => outside fun s => { s with env := effect s.env }

theorem Move.Keeps.exposed {m : Move σ φ α} (h : m.Keeps P) :
    m.exposed.Keeps fun s : Exposed P => P s.env := by
  cases m with
  | launch config spans fate => exact Config.Keeps.exposed h
  | outside effect => exact fun s => h s.env
  | _ => trivial

end Reattempt
