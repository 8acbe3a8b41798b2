import WdmNet.Control.Service
import WdmNet.Proofs.Pass.Closed
/-!
A refused operation leaves the network as it was.

The changes of a network are `Except` computations that build the new network only after every
check has passed, so a refused change has no network to leave behind. The commands wrap them
(`Outcome.ofExcept`), and a refused command hands back the network it was given. Only a pass
can fail after changing the network, and a pass fails only by a routing loop or an exhausted
switch budget (`Control.passOnly`): every error it adds is of those kinds
(`Flow.AddsPassFailures` is closed under the steps of a pass), and so is the failure joined
from them. Turning channels on or off is refused before any change when the terminal is
unknown, has no transmitters, has a port without a link or does not send a channel.

The control service answers a refused request, name lookup or validation with an error status
and the twin as it was.

Main statement: `failed_operations_leave_state_unchanged`.
-/

namespace WdmNet

namespace Control

/-- A failure of one kind is a pass failure exactly when the kind is a routing loop or an
exhausted switch budget. -/
theorem passOnly_of_kind {k : Kind} (hk : k = .routingLoop ∨ k = .propagationLimit) (msg : String) :
    passOnly (.of k msg) = true := by
  rcases hk with rfl | rfl <;> rfl

/-- Failures joined together stand for every kind of each, so one pass failure among them
makes the joined failure a pass failure. -/
theorem passOnly_join {es : List Failure} {e : Failure} (he : e ∈ es) (hp : passOnly e = true) :
    passOnly (Failure.join es) = true := by
  simp only [passOnly, Failure.is, Failure.join, Bool.or_eq_true, List.contains_iff_mem,
    List.mem_flatMap] at hp ⊢
  rcases hp with hk | hk
  · exact .inl ⟨e, he, hk⟩
  · exact .inr ⟨e, he, hk⟩

end Control

namespace Flow

/-- Every error that `g` has and `f` had not is a pass failure. -/
def AddsPassFailures (f g : Flow) : Prop :=
  ∀ e ∈ g.pass.errors.toList, e ∈ f.pass.errors.toList ∨ Control.passOnly e = true

/-- A pass adds pass failures only: the one step that adds an error fails the pass with a
routing loop or an exhausted switch budget. -/
theorem addsPassFailures_closed : Closed AddsPassFailures where
  refl _ _ he := .inl he
  trans h₁ h₂ e he := (h₂ e he).elim (fun he' => (h₁ e he').elim .inl .inr) .inr
  record _ _ _ _ hs e he := .inl (hs ▸ he)
  fail f k msg hk e he := by
    simp only [fail, Array.toList_push, List.mem_append, List.mem_singleton] at he
    rcases he with he | rfl
    · exact .inl he
    · exact .inr (Control.passOnly_of_kind hk msg)
  visit _ _ _ _ _ he := .inl he
  amp _ _ _ _ he := .inl he
  span _ _ _ _ he := .inl he
  terminal _ _ _ _ _ he := .inl he
  roadmPorts _ _ _ _ _ he := .inl he
  output _ _ _ _ _ _ _ _ _ he := .inl he

end Flow

namespace Network

/-- A pass fails only by a routing loop or an exhausted switch budget. -/
theorem launch_error (n : Network) (t : Terminal) (ports : List Int) (safe : Bool) (kind : String)
    {e : Failure} (he : (n.launch t ports safe kind).error = some e) : Control.passOnly e = true := by
  obtain ⟨g, hg, -, herr⟩ := Flow.addsPassFailures_closed.launch n t ports safe kind
  rw [herr] at he
  split at he
  · cases he
  · rename_i hne
    cases he
    -- the pass starts without errors, so each of its errors is a pass failure
    obtain ⟨e, he⟩ := List.exists_mem_of_ne_nil g.pass.errors.toList (by simpa using hne)
    refine Control.passOnly_join he ((hg e he).resolve_left ?_)
    simp

theorem ofExcept_net {n : Network} {x : Except Failure Network} {e : Failure}
    (he : (Outcome.ofExcept n x).error = some e) : (Outcome.ofExcept n x).net = n := by
  cases x with
  | error => rfl
  | ok => cases he

variable {n : Network}

theorem turnOn_net_of_error {name : String} {safe : Bool} {e : Failure}
    (he : (n.turnOn name safe).error = some e) (hp : Control.passOnly e = false) :
    (n.turnOn name safe).net = n := by
  unfold Network.turnOn at he ⊢
  revert he
  split
  · exact fun _ => rfl
  · split
    · exact fun _ => rfl
    · dsimp only
      split
      · exact fun _ => rfl
      · -- the transmitters are switched on; the pass can then fail by its own kinds only
        split
        · intro he
          rw [launch_error _ _ _ _ _ he] at hp
          cases hp
        · intro he
          cases he

theorem turnOff_net_of_error {name : String} {channels : List Int} {e : Failure}
    (he : (n.turnOff name channels).error = some e) (hp : Control.passOnly e = false) :
    (n.turnOff name channels).net = n := by
  unfold Network.turnOff at he ⊢
  revert he
  split
  · exact fun _ => rfl
  · rename_i t _
    dsimp only
    generalize (if channels.isEmpty then t.tx.keys else channels) = cs
    split
    · exact fun _ => rfl
    · -- every channel was checked; the channels are switched off, then a pass may run
      split
      · intro he
        cases he
      · split
        · intro he
          rw [launch_error _ _ _ _ _ he] at hp
          cases hp
        · intro he
          cases he

/-- A command that fails other than by its pass leaves the network as it was. -/
theorem execute_net_of_error {c : Command} {e : Failure} (he : (n.execute c).error = some e)
    (hp : Control.passOnly e = false) : (n.execute c).net = n := by
  cases c with
  | turnOn => exact turnOn_net_of_error he hp
  | turnOff => exact turnOff_net_of_error he hp
  | resetNetwork => cases he
  | _ => exact ofExcept_net he

/-- The commands other than turning channels on or off run no pass: when they fail, the network
is as it was. -/
theorem execute_net_of_error_of_form {m : Control.Method} {form : Control.CommandForm}
    (hf : m.commandForm? = some form) (v : Schema.Value) {e : Failure}
    (he : (n.execute (form.command v)).error = some e) : (n.execute (form.command v)).net = n := by
  cases m <;> simp only [Control.Method.commandForm?, reduceCtorEq, Option.some.injEq] at hf <;>
    subst hf <;> exact ofExcept_net he

end Network

namespace Twin

theorem executeIn_net_of_error (t : Twin) (s : CallScope) {c : Command} {e : Failure}
    (he : (t.executeIn s c).2.error = some e) (hp : Control.passOnly e = false) :
    (t.executeIn s c).1.net = t.net :=
  Network.execute_net_of_error he hp

end Twin

namespace Control

variable {t : Twin} {scope : CallScope}

theorem runCommand_refused {form : CommandForm} (hf : ∃ m : Method, m.commandForm? = some form)
    {req : Option Payload} (hcode : (runCommand t scope form req).reply.code ≠ .ok) :
    ∃ t', (runCommand t scope form req).twin = some t' ∧ t'.net = t.net := by
  obtain ⟨m, hf⟩ := hf
  unfold runCommand at hcode ⊢
  revert hcode
  split
  · exact fun _ => ⟨t, rfl, rfl⟩
  · rename_i v _
    dsimp only
    split
    · rename_i e he
      exact fun _ => ⟨_, rfl, Network.execute_net_of_error_of_form hf v he⟩
    · exact fun hcode => absurd rfl hcode

theorem runPass_refused {ty : Schema.Ty} {spanName : String} {command : Schema.Value → Command}
    {req : Option Payload} (hcode : (runPass t scope ty spanName command req).reply.code ≠ .ok) :
    ∃ t', (runPass t scope ty spanName command req).twin = some t' ∧ t'.net = t.net := by
  unfold runPass at hcode ⊢
  revert hcode
  split
  · exact fun _ => ⟨t, rfl, rfl⟩
  · dsimp only
    split
    · rename_i e he
      split
      · -- a pass failure is answered next to the reports
        exact fun hcode => absurd rfl hcode
      · rename_i hp
        exact fun _ => ⟨_, rfl, Twin.executeIn_net_of_error _ _ he (by simpa using hp)⟩
    · exact fun hcode => absurd rfl hcode

theorem runQuery_twin (r : Except Failure Payload) : (runQuery t r).twin = some t := by
  cases r <;> rfl

/-- A call the service refuses leaves the twin's network as it was. -/
theorem serve_refused {m : Method} {req : Option Payload}
    (hcode : (serve (some t) scope m req).reply.code ≠ .ok) :
    ∃ t', (serve (some t) scope m req).twin = some t' ∧ t'.net = t.net := by
  simp only [serve] at hcode ⊢
  revert hcode
  split
  · rename_i form hf
    exact runCommand_refused ⟨m, hf⟩
  · split
    · exact runPass_refused
    · exact runPass_refused
    · exact fun hcode => absurd rfl hcode
    · exact fun _ => ⟨t, runQuery_twin _, rfl⟩
    · exact fun _ => ⟨t, runQuery_twin _, rfl⟩
    · exact fun _ => ⟨t, runQuery_twin _, rfl⟩
    · exact fun hcode => absurd rfl hcode

end Control

/-- A failed operation leaves the state as it was. A command that fails other than by a routing
loop or an exhausted switch budget of its pass (name lookup, validation, a refused change of a
switch table, a binding or an amplifier, turning on a terminal without transmitters or with an
unlinked port, turning off a channel it does not send) hands back the network it was given;
a twin running it keeps its network; and a call that the control service refuses, in decoding
its request or in the command, leaves the twin's network as it was. -/
theorem failed_operations_leave_state_unchanged :
    (∀ (n : Network) (c : Command) (e : Failure), (n.execute c).error = some e →
      Control.passOnly e = false → (n.execute c).net = n) ∧
    (∀ (t : Twin) (s : CallScope) (c : Command) (e : Failure), (t.executeIn s c).2.error = some e →
      Control.passOnly e = false → (t.executeIn s c).1.net = t.net) ∧
    (∀ (t : Twin) (scope : CallScope) (m : Control.Method) (req : Option Control.Payload),
      (Control.serve (some t) scope m req).reply.code ≠ .ok →
      ∃ t', (Control.serve (some t) scope m req).twin = some t' ∧ t'.net = t.net) :=
  ⟨fun _ _ _ he hp => Network.execute_net_of_error he hp,
    fun t s _ _ he hp => Twin.executeIn_net_of_error t s he hp,
    fun _ _ _ _ hcode => Control.serve_refused hcode⟩

end WdmNet
