import WdmNet.Proofs.Pass.Frame
import WdmNet.Proofs.Signal.ChannelOrder
import WdmNet.Proofs.Terminal.Bindings
import WdmNet.Proofs.Roadm.Leveling
/-!
What one output port of a ROADM computes.

`Flow.switchOutput` rebuilds an output port from every processed input of the ROADM. The
carriers that compete for the port (`Roadm.candidates`) are the processed ones, in input port
order, whose input port and channel a rule routes to the port and whose signal is on. Taken in
that order, the first carrier of each channel is kept and every later one collides
(`Roadm.splitCollisions`).

Collection is a fold over the processed carriers. One item of it is `Flow.collectStep`, and
over any run of items the kept carriers are leveled and appended, their inputs noted, and the
colliding ones dropped (`Flow.foldl_collectStep`). So the output, sorted by channel, holds for
each channel that some candidate has exactly the first candidate's carrier, leveled for the
port; that candidate comes from the lowest input port with the channel and is the source the
port records; every other candidate is dropped as a collision, in order; and the boost of the
port runs unless the outbound link already starts with it. In exact arithmetic the leveling
has the closed form of `ExactState.leveled_some`.

Main statement: `Flow.switchOutput_exact`.
-/

namespace WdmNet

namespace Roadm

/-- The carriers processed on the inputs of a ROADM, each with its input port, in input port
order. -/
def processed (r : Roadm) : List (Int × Carrier) :=
  r.inProc.toList.flatMap fun p => p.2.map (p.1, ·)

/-- Whether a processed carrier goes to output `o`: a rule routes its input port and channel
there, and its signal is on. -/
def routesTo (r : Roadm) (on : Nat → Bool) (o : Int) (p : Int × Carrier) : Bool :=
  match r.ruleFor p.1 p.2.channel with
  | some rule => rule.outPort == o && on p.2.sig
  | none => false

/-- The carriers competing for output `o`, in input port order. -/
def candidates (r : Roadm) (on : Nat → Bool) (o : Int) : List (Int × Carrier) :=
  r.processed.filter (r.routesTo on o)

/-- What output `o` of the ROADM at `rh` makes of a carrier it keeps: the state after the fabric
and the VOA, recorded at the port. -/
def outCarrier (r : Roadm) (rh : Nat) (o : Int) (c : Carrier) : Carrier :=
  { c with state := Flow.leveled r o c.channel c.state, recordedAt := ⟨.nodeOut, rh, o⟩ }

/-- Candidates taken in order, after the channels `seen`: the first of each new channel is kept
(left), and each one whose channel is already taken collides (right). -/
def splitCollisions (seen : List Int) :
    List (Int × Carrier) → List (Int × Carrier) × List (Int × Carrier)
  | [] => ([], [])
  | p :: ps =>
    if p.2.channel ∈ seen then
      ((splitCollisions seen ps).1, p :: (splitCollisions seen ps).2)
    else
      (p :: (splitCollisions (p.2.channel :: seen) ps).1,
        (splitCollisions (p.2.channel :: seen) ps).2)

@[simp] theorem splitCollisions_nil (seen : List Int) : splitCollisions seen [] = ([], []) := rfl

theorem splitCollisions_cons_of_mem {seen : List Int} {p : Int × Carrier} (ps : List (Int × Carrier))
    (h : p.2.channel ∈ seen) :
    splitCollisions seen (p :: ps) =
      ((splitCollisions seen ps).1, p :: (splitCollisions seen ps).2) :=
  if_pos h

theorem splitCollisions_cons_of_not_mem {seen : List Int} {p : Int × Carrier}
    (ps : List (Int × Carrier)) (h : p.2.channel ∉ seen) :
    splitCollisions seen (p :: ps) =
      (p :: (splitCollisions (p.2.channel :: seen) ps).1,
        (splitCollisions (p.2.channel :: seen) ps).2) :=
  if_neg h

/-- The kept candidate of a channel is the first candidate of that channel, unless the channel
was taken before. -/
theorem find?_splitCollisions (seen : List Int) (l : List (Int × Carrier)) (ch : Int) :
    (splitCollisions seen l).1.find? (·.2.channel == ch) =
      if ch ∈ seen then none else l.find? (·.2.channel == ch) := by
  induction l generalizing seen with
  | nil => simp
  | cons p ps ih =>
    by_cases hp : p.2.channel ∈ seen
    · -- `p` collides, so its channel is not a new one
      rw [splitCollisions_cons_of_mem ps hp, ih, List.find?_cons]
      by_cases hch : ch ∈ seen
      · simp [hch]
      · have hne : (p.2.channel == ch) = false := beq_false_of_ne fun h => hch (h ▸ hp)
        simp [hch, hne]
    · rw [splitCollisions_cons_of_not_mem ps hp, List.find?_cons, List.find?_cons, ih]
      by_cases hpc : p.2.channel = ch
      · subst hpc
        simp [hp]
      · have hne : (p.2.channel == ch) = false := beq_false_of_ne hpc
        simp [hne, Ne.symm hpc]

/-- The kept candidates have distinct channels, none of them taken before. -/
theorem splitCollisions_nodup (seen : List Int) (l : List (Int × Carrier)) :
    ((splitCollisions seen l).1.map (·.2.channel)).Nodup ∧
      ∀ p ∈ (splitCollisions seen l).1, p.2.channel ∉ seen := by
  induction l generalizing seen with
  | nil => simp
  | cons p ps ih =>
    by_cases hp : p.2.channel ∈ seen
    · rw [splitCollisions_cons_of_mem ps hp]
      exact ih seen
    · rw [splitCollisions_cons_of_not_mem ps hp]
      obtain ⟨hnd, hnew⟩ := ih (p.2.channel :: seen)
      refine ⟨List.nodup_cons.mpr ⟨fun hmem => ?_, hnd⟩, fun q hq => ?_⟩
      · obtain ⟨q, hq, hqc⟩ := List.mem_map.mp hmem
        exact hnew q hq (hqc ▸ List.mem_cons_self)
      · rcases List.mem_cons.mp hq with rfl | hq
        · exact hp
        · exact fun h => hnew q hq (List.mem_cons_of_mem _ h)

/-- The processed carriers come in input port order. -/
theorem processed_sorted (r : Roadm) : r.processed.Pairwise (·.1 ≤ ·.1) := by
  unfold processed
  refine List.pairwise_flatMap.mpr ⟨fun p _ => ?_, ?_⟩
  · -- one input's carriers all carry its port
    exact List.pairwise_map.mpr (List.pairwise_of_forall fun _ _ => le_refl _)
  · refine Std.TreeMap.ordered_keys_toList.imp fun {a b} hab x hx y hy => ?_
    obtain ⟨_, _, rfl⟩ := List.mem_map.mp hx
    obtain ⟨_, _, rfl⟩ := List.mem_map.mp hy
    exact le_of_lt (Int.compare_eq_lt.mp hab)

variable {r : Roadm} {on : Nat → Bool} {o ch : Int}

/-- The first candidate of a channel comes from the lowest input port that sends the channel to
the output. -/
theorem find?_candidates_min {p : Int × Carrier}
    (hf : (r.candidates on o).find? (·.2.channel == ch) = some p) {q : Int × Carrier}
    (hq : q ∈ r.candidates on o) (hqc : q.2.channel = ch) : p.1 ≤ q.1 := by
  obtain ⟨_, as, bs, heq, has⟩ := List.find?_eq_some_iff_append.mp hf
  have hsorted : (as ++ p :: bs).Pairwise (·.1 ≤ ·.1) := heq ▸ (processed_sorted r).filter _
  rw [heq] at hq
  rcases List.mem_append.mp hq with hq | hq
  · -- an earlier candidate would have been found first
    have hq' := has q hq
    simp [hqc] at hq'
  · rcases List.mem_cons.mp hq with rfl | hq
    · exact le_refl _
    · exact List.rel_of_pairwise_cons (List.pairwise_append.mp hsorted).2.1 hq

end Roadm

namespace Flow

/-- One item of `collectOutput`: a routed carrier whose channel is taken collides; otherwise it
is leveled, recorded at the port, appended and noted as coming from its input. -/
def collectStep (r : Roadm) (rh : Nat) (o : Int) (acc : Flow × ChannelSet × Std.TreeMap Int Int)
    (p : Int × Carrier) : Flow × ChannelSet × Std.TreeMap Int Int :=
  if r.routesTo (fun i => (acc.1.net.signal i).active) o p then
    if acc.2.2.contains p.2.channel then
      (acc.1.drop r.name .collision p.2.channel, acc.2.1, acc.2.2)
    else
      (acc.1.visit p.2 ⟨.nodeOut, rh, o⟩ (leveled r o p.2.channel p.2.state),
        acc.2.1 ++ [r.outCarrier rh o p.2], acc.2.2.insert p.2.channel p.1)
  else acc

theorem collectOutput_eq_foldl (f : Flow) (r : Roadm) (rh : Nat) (o : Int) :
    f.collectOutput r rh o = r.processed.foldl (collectStep r rh o) (f, [], {}) := by
  unfold collectOutput
  dsimp only
  congr 1
  funext acc p
  obtain ⟨g, set, src⟩ := acc
  obtain ⟨i, c⟩ := p
  simp only [collectStep, Roadm.routesTo, Roadm.outCarrier]
  split
  · next hrule => simp [hrule]
  · next rule hrule =>
    -- the engine skips on the negation of the routing test
    by_cases hout : rule.outPort = o <;> by_cases hon : (g.net.signal c.sig).active <;>
      simp [hrule, hout, hon]

/-- A visit changes no signal's on/off state. -/
theorem active_visit (g : Flow) (c : Carrier) (loc : Location) (st : SignalState) (i : Nat) :
    ((g.visit c loc st).net.signal i).active = (g.net.signal i).active := by
  rcases Network.signal_modifySignal g.net c.sig
      (·.record c.recordedAt loc g.pass.id c.state st) i with h | h
  · exact congrArg Signal.active h
  · exact h ▸ (Signal.alike_record _ _ _ _ _ _).active

/-- Dropping channels writes the record of the pass from the record alone. -/
theorem pass_foldl_drop {g g' : Flow} (h : g.pass = g'.pass) (node : String)
    (l : List (Int × Carrier)) :
    (l.foldl (fun g p => g.drop node .collision p.2.channel) g).pass =
      (l.foldl (fun g p => g.drop node .collision p.2.channel) g').pass := by
  induction l generalizing g g' with
  | nil => exact h
  | cons p ps ih =>
    refine ih ?_
    simp only [drop, debug, emit, h]

section Collect

variable (r : Roadm) (rh : Nat) (o : Int) {on : Nat → Bool}

/-- Collecting the items `l` from any point, with `seen` the channels taken so far and `on` the
signals that are on: the kept candidates among `l` are leveled and appended and their inputs
noted, and the colliding ones are dropped, in order. -/
theorem foldl_collectStep {seen : List Int} (l : List (Int × Carrier)) (set : ChannelSet)
    {g : Flow} {src : Std.TreeMap Int Int}
    (hon : ∀ i, (g.net.signal i).active = on i) (hseen : ∀ ch, src.contains ch ↔ ch ∈ seen) :
    (l.foldl (collectStep r rh o) (g, set, src)).2.1 =
        set ++ (Roadm.splitCollisions seen (l.filter (r.routesTo on o))).1.map
          (r.outCarrier rh o ·.2) ∧
      (l.foldl (collectStep r rh o) (g, set, src)).2.2 =
        src.insertMany ((Roadm.splitCollisions seen (l.filter (r.routesTo on o))).1.map
          fun p => (p.2.channel, p.1)) ∧
      (l.foldl (collectStep r rh o) (g, set, src)).1.pass =
        ((Roadm.splitCollisions seen (l.filter (r.routesTo on o))).2.foldl
          (fun g p => g.drop r.name .collision p.2.channel) g).pass := by
  induction l generalizing g set src seen with
  | nil => simp
  | cons p ps ih =>
    rw [List.foldl_cons]
    have hroute : r.routesTo (fun i => (g.net.signal i).active) o p = r.routesTo on o p := by
      rw [funext hon]
    by_cases hp : r.routesTo on o p
    · rw [List.filter_cons_of_pos hp]
      by_cases hc : p.2.channel ∈ seen
      · -- a collision: only the record of the pass changes
        have hstep : collectStep r rh o (g, set, src) p =
            (g.drop r.name .collision p.2.channel, set, src) := by
          dsimp only [collectStep]
          rw [hroute, if_pos hp, if_pos ((hseen _).mpr hc)]
        rw [hstep, Roadm.splitCollisions_cons_of_mem _ hc]
        exact ih set (g := g.drop r.name .collision p.2.channel) hon hseen
      · -- a new channel: kept, and from now on taken
        have hstep : collectStep r rh o (g, set, src) p =
            (g.visit p.2 ⟨.nodeOut, rh, o⟩ (leveled r o p.2.channel p.2.state),
              set ++ [r.outCarrier rh o p.2], src.insert p.2.channel p.1) := by
          dsimp only [collectStep]
          rw [hroute, if_pos hp, if_neg fun h => hc ((hseen _).mp h)]
        rw [hstep, Roadm.splitCollisions_cons_of_not_mem _ hc]
        have hseen' : ∀ ch, (src.insert p.2.channel p.1).contains ch ↔ ch ∈ p.2.channel :: seen := by
          intro ch
          rw [Std.TreeMap.contains_insert, Bool.or_eq_true, beq_iff_eq, compare_eq_iff_eq, hseen,
            List.mem_cons]
          exact or_congr_left eq_comm
        have hon' := fun i =>
          (active_visit g p.2 ⟨.nodeOut, rh, o⟩ (leveled r o p.2.channel p.2.state) i).trans (hon i)
        obtain ⟨h₁, h₂, h₃⟩ := ih (set ++ [r.outCarrier rh o p.2]) hon' hseen'
        refine ⟨by simp [h₁], by rw [h₂, List.map_cons, Std.TreeMap.insertMany_cons], ?_⟩
        rw [h₃]
        -- a visit leaves the record of the pass as it was
        exact pass_foldl_drop (show (g.visit p.2 _ _).pass = g.pass from rfl) _ _
    · rw [List.filter_cons_of_neg hp]
      have hstep : collectStep r rh o (g, set, src) p = (g, set, src) := by
        dsimp only [collectStep]
        rw [hroute, if_neg hp]
      rw [hstep]
      exact ih set hon hseen

variable (f : Flow)

/-- Collecting output `o` of `r`: the kept candidates, leveled, in input order; their inputs as
the sources of their channels; and every colliding candidate dropped, in order. -/
theorem collectOutput_run :
    (f.collectOutput r rh o).2.1 =
        (Roadm.splitCollisions [] (r.candidates (fun i => (f.net.signal i).active) o)).1.map
          (r.outCarrier rh o ·.2) ∧
      (f.collectOutput r rh o).2.2 =
        (∅ : Std.TreeMap Int Int).insertMany
          ((Roadm.splitCollisions [] (r.candidates (fun i => (f.net.signal i).active) o)).1.map
            fun p => (p.2.channel, p.1)) ∧
      (f.collectOutput r rh o).1.pass =
        ((Roadm.splitCollisions [] (r.candidates (fun i => (f.net.signal i).active) o)).2.foldl
          (fun g p => g.drop r.name .collision p.2.channel) f).pass := by
  have hon : ∀ i, (f.net.signal i).active = (f.net.signal i).active := fun _ => rfl
  have hseen : ∀ ch, (∅ : Std.TreeMap Int Int).contains ch ↔ ch ∈ ([] : List Int) := by simp
  rw [collectOutput_eq_foldl]
  obtain ⟨h₁, h₂, h₃⟩ := foldl_collectStep r rh o r.processed [] hon hseen
  exact ⟨h₁, h₂, h₃⟩

theorem collectOutput_nodup : (f.collectOutput r rh o).2.1.channels.Nodup := by
  rw [(collectOutput_run r rh o f).1, ChannelSet.channels, List.map_map]
  exact (Roadm.splitCollisions_nodup _ _).1

/-- Sorted by channel, the collected carriers hold for each channel the first candidate's
carrier, leveled and recorded at the port. -/
theorem find?_collectOutput (ch : Int) :
    (f.collectOutput r rh o).2.1.sortByChannel.find? ch =
      ((r.candidates (fun i => (f.net.signal i).active) o).find? (·.2.channel == ch)).map
        (r.outCarrier rh o ·.2) := by
  rw [ChannelSet.find?_sortByChannel (collectOutput_nodup r rh o f), ChannelSet.find?,
    (collectOutput_run r rh o f).1, List.find?_map]
  exact congrArg (Option.map _) (Roadm.find?_splitCollisions [] _ ch)

/-- The source the port records for a channel is the input of its first candidate. -/
theorem collectOutput_source (ch : Int) :
    (f.collectOutput r rh o).2.2.get? ch =
      ((r.candidates (fun i => (f.net.signal i).active) o).find? (·.2.channel == ch)).map (·.1) := by
  have hsplit := Roadm.find?_splitCollisions [] (r.candidates (fun i => (f.net.signal i).active) o) ch
  have hnd := (Roadm.splitCollisions_nodup [] (r.candidates (fun i => (f.net.signal i).active) o)).1
  rw [if_neg List.not_mem_nil] at hsplit
  rw [(collectOutput_run r rh o f).2.1, Std.TreeMap.get?_eq_getElem?, ← hsplit]
  cases hf : List.find? (·.2.channel == ch)
      (Roadm.splitCollisions [] (r.candidates (fun i => (f.net.signal i).active) o)).1 with
  | none =>
    -- no kept candidate has the channel
    rw [Std.TreeMap.getElem?_insertMany_list_of_contains_eq_false]
    · simp
    · simpa [List.find?_eq_none] using hf
  | some p =>
    have hp := List.find?_some hf
    refine Std.TreeMap.getElem?_insertMany_list_of_mem (k := p.2.channel) (by simpa using hp) ?_
      (List.mem_map.mpr ⟨p, List.mem_of_find?_eq_some hf, rfl⟩)
    rw [List.pairwise_map]
    exact (List.pairwise_map.mp hnd).imp fun hne heq => hne (by simpa using heq)

/-- Collecting changes nothing in the network but its signals. -/
theorem collectOutput_net :
    ∃ sigs, (f.collectOutput r rh o).1.net = { f.net with signals := sigs } := by
  rw [collectOutput_eq_foldl]
  refine List.foldlRecOn (motive := fun acc : Flow × ChannelSet × Std.TreeMap Int Int =>
      ∃ sigs, acc.1.net = { f.net with signals := sigs })
    _ _ ?_ fun acc hacc p _ => ?_
  · exact ⟨f.net.signals, rfl⟩
  obtain ⟨sigs, h⟩ := hacc
  unfold collectStep
  split
  · split
    · exact ⟨sigs, h⟩
    · exact ⟨_, by rw [show (acc.1.visit _ _ _).net = acc.1.net.modifySignal _ _ from rfl, h]; rfl⟩
  · exact ⟨sigs, h⟩

end Collect

/-- What an amplifier makes of a set depends on the amplifiers of the network alone. -/
theorem amplify_snd_congr {f g : Flow} (h : g.net.amps = f.net.amps) (b : Nat) (set : ChannelSet) :
    (g.amplify b set).2 = (f.amplify b set).2 := by
  unfold amplify
  rw [h]
  split
  · rfl
  · split <;> rfl

/-- The boost of an output port runs on the set unless the outbound link starts with that
amplifier; what it makes of the set depends only on the amplifiers and the links. -/
theorem boostOutput_snd {f g : Flow} (h : g.net.amps = f.net.amps)
    (hl : g.net.outboundLink = f.net.outboundLink) (r : Roadm) (rh : Nat) (o : Int)
    (set : ChannelSet) :
    (g.boostOutput r rh o set).2 =
      (r.boosts.get? o).elim set fun b =>
        if (f.net.outboundLink rh o).any (·.boost == some b) then set else (f.amplify b set).2 := by
  unfold boostOutput
  rw [hl]
  cases hb : r.boosts.get? o with
  | none => rfl
  | some b =>
    cases hlink : f.net.outboundLink rh o with
    | none => simp [amplify_snd_congr h]
    | some l =>
      by_cases hbl : l.boost = some b
      · simp [hbl]
      · simp [hbl, amplify_snd_congr h]

/-- An output port is what collection gives, sorted by channel, then boosted. -/
theorem switchOutput_snd {f : Flow} {rh : Nat} {r : Roadm} (hr : f.net.roadmAt? rh = some r)
    (o : Int) :
    (f.switchOutput rh o).2 =
      ((f.collectOutput r rh o).1.boostOutput r rh o (f.collectOutput r rh o).2.1.sortByChannel).2 := by
  unfold switchOutput
  rw [hr]

/-- What `switchOutput` computes for output `o` of the ROADM `r` at `rh`. Its candidates are the
processed carriers, in input port order, that a rule sends to `o` and whose signal is on. Before
its boost the output, sorted by channel, holds for each channel exactly the first candidate's
carrier, leveled and recorded at the port, and the port records that candidate's input as the
channel's source; that input is the lowest one with the channel; every later candidate of a
channel is dropped as a collision, in order. The boost of the port then runs, unless the
outbound link starts with the same amplifier. In exact arithmetic, leveling scales the state by
the fabric loss and then by `min 1 (dbmToWatts t / P')`, `P'` the power after the fabric: the
output power is `min P' (dbmToWatts t)` and the signal-to-noise ratios are kept. -/
theorem switchOutput_exact {f : Flow} {rh : Nat} {r : Roadm} (hr : f.net.roadmAt? rh = some r)
    (o : Int) :
    (f.collectOutput r rh o).2.1.sortByChannel.Pairwise (·.channel < ·.channel) ∧
    (∀ ch, (f.collectOutput r rh o).2.1.sortByChannel.find? ch =
        ((r.candidates (fun i => (f.net.signal i).active) o).find? (·.2.channel == ch)).map
          (r.outCarrier rh o ·.2) ∧
      (f.collectOutput r rh o).2.2.get? ch =
        ((r.candidates (fun i => (f.net.signal i).active) o).find? (·.2.channel == ch)).map (·.1)) ∧
    (∀ ch p q, (r.candidates (fun i => (f.net.signal i).active) o).find? (·.2.channel == ch) = some p →
      q ∈ r.candidates (fun i => (f.net.signal i).active) o → q.2.channel = ch → p.1 ≤ q.1) ∧
    (f.collectOutput r rh o).1.pass =
      ((Roadm.splitCollisions [] (r.candidates (fun i => (f.net.signal i).active) o)).2.foldl
        (fun g p => g.drop r.name .collision p.2.channel) f).pass ∧
    (f.switchOutput rh o).2 =
      ((r.boosts.get? o).elim (f.collectOutput r rh o).2.1.sortByChannel fun b =>
        if (f.net.outboundLink rh o).any (·.boost == some b) then
          (f.collectOutput r rh o).2.1.sortByChannel
        else (f.amplify b (f.collectOutput r rh o).2.1.sortByChannel).2) ∧
    ∀ (loss t : ℝ) (s : ExactState), 0 < s.power →
      ExactState.leveled loss (some t) s =
          (s.scale (ExactState.dbToLinear (-loss))).scale
            (min 1 (ExactState.dbmToWatts t / (s.power * ExactState.dbToLinear (-loss)))) ∧
        (ExactState.leveled loss (some t) s).power =
          min (s.power * ExactState.dbToLinear (-loss)) (ExactState.dbmToWatts t) ∧
        ∀ c, (ExactState.leveled loss (some t) s).power /
            ((ExactState.leveled loss (some t) s).ase + (ExactState.leveled loss (some t) s).nli * c) =
          (s.scale (ExactState.dbToLinear (-loss))).power /
            ((s.scale (ExactState.dbToLinear (-loss))).ase +
              (s.scale (ExactState.dbToLinear (-loss))).nli * c) := by
  obtain ⟨sigs, hnet⟩ := collectOutput_net r rh o f
  refine ⟨ChannelSet.sortByChannel_sorted (collectOutput_nodup r rh o f),
    fun ch => ⟨find?_collectOutput r rh o f ch, collectOutput_source r rh o f ch⟩,
    fun _ _ _ hp hq hqc => Roadm.find?_candidates_min hp hq hqc, (collectOutput_run r rh o f).2.2,
    ?_, fun loss t s hp => ⟨ExactState.leveled_some loss t hp, ExactState.leveled_some_power loss t hp,
      ExactState.leveled_some_ratio loss t hp⟩⟩
  -- the boost sees the amplifiers and links as they were before collection
  rw [switchOutput_snd hr]
  exact boostOutput_snd (by rw [hnet]) (by rw [hnet]; rfl) r rh o _

/-- A ROADM whose inputs 1 and 2 both bring channel 1, each routed to output 1 by a rule, with a
VOA target on that channel at output 1: the output is sorted, takes its channel 1 from input 1,
the lower one, and the pass notes input 2's carrier as the one collision. -/
theorem competing_inputs_lower_wins :
    let c₁ : Carrier := ⟨0, 1, 0, 0, ⟨1, 0, 0⟩, Location.nowhere⟩
    let c₂ : Carrier := ⟨1, 1, 0, 0, ⟨1, 0, 0⟩, Location.nowhere⟩
    let r : Roadm := { Roadm.create 0 "r" ⟨0, none, [], []⟩ with
      rules := ((∅ : Std.TreeMap String SwitchRule).insert "a" ⟨"a", 1, 1, [1]⟩).insert "b"
        ⟨"b", 2, 1, [1]⟩
      route := ((∅ : Std.TreeMap PortChannel String).insert ⟨1, 1⟩ "a").insert ⟨2, 1⟩ "b"
      voa := (∅ : Std.TreeMap PortChannel Float).insert ⟨1, 1⟩ (-3)
      inProc := ((∅ : Std.TreeMap Int ChannelSet).insert 1 [c₁]).insert 2 [c₂] }
    let f : Flow := ⟨{ Network.empty 0 with
      nodes := #[.roadm r]
      signals := #[⟨1, 0, 0, true, [], []⟩, ⟨1, 0, 0, true, [], []⟩] },
      ⟨0, "", "", false, #[], ∅, #[]⟩⟩
    f.net.roadmAt? 0 = some r ∧
      (f.collectOutput r 0 1).2.1.sortByChannel.Pairwise (·.channel < ·.channel) ∧
      (f.collectOutput r 0 1).2.2.get? 1 = some 1 ∧
      (f.collectOutput r 0 1).1.pass = (f.drop "r" .collision 1).pass := by
  intro c₁ c₂ r f
  have hr : f.net.roadmAt? 0 = some r := rfl
  obtain ⟨hsorted, hfind, -, hpass, -⟩ := switchOutput_exact hr 1
  -- both carriers are candidates; input 1 comes first and keeps the channel
  exact ⟨hr, hsorted, (hfind 1).2.trans (by decide +kernel), hpass.trans rfl⟩

end Flow

end WdmNet
