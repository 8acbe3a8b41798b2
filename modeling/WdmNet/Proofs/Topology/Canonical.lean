import Mathlib.Data.List.Sort
import WdmNet.Proofs.Schema.View
import WdmNet.Topology.Description
/-!
Descriptions as equality sees them.

Two descriptions are the same network when they differ only in ways no comparison of their
fields notices: a span or channel list given empty and one not given at all, and the two zeros
of a double, which compare equal. `Description.canonical` forgets exactly that.

A description is read from the value a document decodes into (`Description.ofValue`). The
main statement,
`Description.canonical_ofValue_eq`: values that every reader of the description shape sees
alike (`Value.view`) are read as descriptions with one canonical form.
-/

namespace WdmNet

open Schema Schema.Value

/-! ### Canonical descriptions -/

/-- An optional list, an empty list taken for an absent one, each item made canonical. -/
def canonList {α : Type} (f : α → α) (o : Option (List α)) : Option (List α) :=
  match o.getD [] with
  | [] => none
  | xs => some (xs.map f)

/-- An amplifier configuration with both zeros of a double taken as one. -/
def AmplifierConfig.canonical (c : AmplifierConfig) : AmplifierConfig :=
  { c with targetGainDb := canonFloat c.targetGainDb,
           noiseFigureDb := c.noiseFigureDb.map canonFloat }

/-- A transceiver with both zeros of a double taken as one. -/
def Transceiver.canonical (t : Transceiver) : Transceiver :=
  { t with powerDbm := canonFloat t.powerDbm, symbolRate := canonFloat t.symbolRate }

/-- A ROADM configuration with both zeros of a double taken as one. -/
def RoadmConfig.canonical (c : RoadmConfig) : RoadmConfig :=
  { c with insertionLossDb := canonFloat c.insertionLossDb,
           levelingPowerDbm := c.levelingPowerDbm.map canonFloat }

/-- A span configuration with both zeros of a double taken as one. -/
def SpanConfig.canonical (c : SpanConfig) : SpanConfig :=
  { c with lengthKm := canonFloat c.lengthKm,
           attenuationDbPerKm := canonFloat c.attenuationDbPerKm,
           channelAttenuation := c.channelAttenuation.map fun e => (e.1, canonFloat e.2),
           dispersionPsNmKm := canonFloat c.dispersionPsNmKm,
           nonlinearCoefficient := canonFloat c.nonlinearCoefficient,
           ramanGain := canonFloat c.ramanGain,
           effectiveAreaUm2 := canonFloat c.effectiveAreaUm2,
           ramanBandwidthHz := canonFloat c.ramanBandwidthHz }

/-- A span with its configuration made canonical. -/
def SpanDesc.canonical (s : SpanDesc) : SpanDesc := { s with span := s.span.canonical }

/-- A link whose span list is absent when empty and otherwise canonical. -/
def LinkDesc.canonical (l : LinkDesc) : LinkDesc :=
  { l with spans := canonList SpanDesc.canonical l.spans }

/-- A rule whose channel list is absent when empty. -/
def RuleDesc.canonical (r : RuleDesc) : RuleDesc :=
  { r with channels := canonList (fun c => c) r.channels }

/-- A VOA target with both zeros of a double taken as one. -/
def VoaDesc.canonical (v : VoaDesc) : VoaDesc := { v with powerDbm := canonFloat v.powerDbm }

/-- A control section with its rules and VOA targets made canonical. -/
def Control.canonical (c : Control) : Control :=
  { c with switchRules := c.switchRules.map RuleDesc.canonical,
           voa := c.voa.map VoaDesc.canonical }

/-- An amplifier with its configuration made canonical. -/
def AmplifierDesc.canonical (a : AmplifierDesc) : AmplifierDesc :=
  { a with config := a.config.canonical }

/-- A terminal with its transceivers made canonical. -/
def TerminalDesc.canonical (t : TerminalDesc) : TerminalDesc :=
  { t with transceivers := t.transceivers.map Transceiver.canonical }

/-- A ROADM with its configuration made canonical. -/
def RoadmDesc.canonical (r : RoadmDesc) : RoadmDesc := { r with config := r.config.canonical }

/-- A description as equality of descriptions sees it: a list given empty and one not given
are one, and so are the two zeros of a double. -/
def Description.canonical (d : Description) : Description :=
  { d with amplifiers := d.amplifiers.map AmplifierDesc.canonical,
           terminals := d.terminals.map TerminalDesc.canonical,
           roadms := d.roadms.map RoadmDesc.canonical,
           links := d.links.map LinkDesc.canonical,
           control := d.control.map Control.canonical }

/-! ### The doubles of a description -/

/-- The doubles of an amplifier configuration. -/
def AmplifierConfig.floats (c : AmplifierConfig) : List Float :=
  c.targetGainDb :: c.noiseFigureDb.toList

/-- The doubles of a transceiver. -/
def Transceiver.floats (t : Transceiver) : List Float := [t.powerDbm, t.symbolRate]

/-- The doubles of a ROADM configuration. -/
def RoadmConfig.floats (c : RoadmConfig) : List Float :=
  c.insertionLossDb :: c.levelingPowerDbm.toList

/-- The doubles of a span configuration, its attenuation overrides last. -/
def SpanConfig.floats (c : SpanConfig) : List Float :=
  [c.lengthKm, c.attenuationDbPerKm, c.dispersionPsNmKm, c.nonlinearCoefficient, c.ramanGain,
    c.effectiveAreaUm2, c.ramanBandwidthHz] ++ c.channelAttenuation.map (·.2)

/-- The doubles of the spans of a link. -/
def LinkDesc.floats (l : LinkDesc) : List Float := (l.spans.getD []).flatMap (·.span.floats)

/-- The doubles of a control section: its VOA targets. -/
def Control.floats (c : Control) : List Float := c.voa.map (·.powerDbm)

/-- Every double a description holds. -/
def Description.floats (d : Description) : List Float :=
  d.amplifiers.flatMap (·.config.floats) ++
    d.terminals.flatMap (·.transceivers.flatMap Transceiver.floats) ++
    d.roadms.flatMap (·.config.floats) ++ d.links.flatMap LinkDesc.floats ++
    (d.control.map Control.floats).getD []

/-! ### Lists given empty or not at all -/

theorem canonList_eq_of_map_eq {α : Type} {f : α → α} {o₁ o₂ : Option (List α)}
    (h : (o₁.getD []).map f = (o₂.getD []).map f) : canonList f o₁ = canonList f o₂ := by
  unfold canonList
  cases h₁ : o₁.getD [] with
  | nil =>
    rw [h₁] at h
    cases h₂ : o₂.getD [] with
    | nil => rfl
    | cons _ _ => rw [h₂] at h; simp at h
  | cons x xs =>
    rw [h₁] at h
    cases h₂ : o₂.getD [] with
    | nil => rw [h₂] at h; simp at h
    | cons y ys => rw [h₂] at h; exact congrArg some h

theorem getD_map_map {α β : Type} (g : α → β) (o : Option (List α)) :
    (o.map (·.map g)).getD [] = (o.getD []).map g := by
  cases o <;> rfl

theorem asOptList_getD {ok : Float → Prop} {s : Shape} {a : Value}
    (ha : a = nil ∨ Sound ok (.list s) a) : a.asOptList.getD [] = a.asList := by
  rcases ha with rfl | ha
  · rfl
  · cases ha <;> rfl

/-! ### Reading values seen alike -/

section Seen

variable {ok₁ ok₂ : Float → Prop} {n : Nat} {v₁ v₂ : Value}

theorem view_field {k : Nat} {t : Ty} (h : view (k + 1) (.record t) v₁ = view (k + 1) (.record t) v₂)
    (f : Field) (hf : f ∈ t.fields) : view k f.shape (v₁.get f.key) = view k f.shape (v₂.get f.key) :=
  view_record.mp h f hf

/-- The items of list fields seen alike, read by a reading that sees only the view of an
item. -/
theorem map_asList_eq_of_view {s : Shape} {γ : Type} {F : Value → γ} {a b : Value}
    (ha : a = nil ∨ Sound ok₁ (.list s) a) (hb : b = nil ∨ Sound ok₂ (.list s) b)
    (hF : ∀ x y, Sound ok₁ s x → Sound ok₂ s y → view n s x = view n s y → F x = F y)
    (h : view (n + 1) (.list s) a = view (n + 1) (.list s) b) :
    a.asList.map F = b.asList.map F :=
  List.map_eq_map_of_seen
    (fun x hx y hy => hF x y (Sound.items_of_get ha x hx) (Sound.items_of_get hb y hy))
    (asList_map_eq_of_view h)

theorem AmplifierConfig.canonical_ofValue_eq {t : Ty}
    (ht : ∀ f ∈ Ty.amplifierFields, f ∈ t.fields) (h₁ : Sound ok₁ (.record t) v₁)
    (h₂ : Sound ok₂ (.record t) v₂) (h : view (n + 3) (.record t) v₁ = view (n + 3) (.record t) v₂) :
    (AmplifierConfig.ofValue v₁).canonical = (AmplifierConfig.ofValue v₂).canonical := by
  have hf : ∀ f ∈ Ty.amplifierFields, view (n + 2) f.shape (v₁.get f.key) =
      view (n + 2) f.shape (v₂.get f.key) := fun f hf => view_field h f (ht f hf)
  have hnoise : ⟨"noise_figure_db", .opt .float, true⟩ ∈ Ty.amplifierFields := by
    simp [Ty.amplifierFields]
  simp only [AmplifierConfig.ofValue, AmplifierConfig.canonical, AmplifierConfig.mk.injEq]
  refine ⟨canonFloat_eq_of_view (hf ⟨"target_gain_db", .float, false⟩ ?_),
    asOptFloat_eq_of_view (.opt_of_get (h₁.field (ht _ hnoise)))
      (.opt_of_get (h₂.field (ht _ hnoise))) (hf _ hnoise),
    asStr_eq_of_view (hf ⟨"wdg", .text "core.WDGProfile", true⟩ ?_),
    asStr_eq_of_view (hf ⟨"role", .text "core.AmplifierRole", true⟩ ?_),
    asStr_eq_of_view (hf ⟨"agc", .text "core.AGCStrategy", true⟩ ?_),
    asInt_eq_of_view (hf ⟨"max_agc_iterations", .int, true⟩ ?_)⟩ <;>
  simp [Ty.amplifierFields]

theorem Transceiver.canonical_ofValue_eq
    (h : view (n + 2) (.record .transceiver) v₁ = view (n + 2) (.record .transceiver) v₂) :
    (Transceiver.ofValue v₁).canonical = (Transceiver.ofValue v₂).canonical := by
  have hf := view_field h
  simp only [Transceiver.ofValue, Transceiver.canonical, Transceiver.mk.injEq]
  refine ⟨asInt_eq_of_view (hf ⟨"id", .int, false⟩ ?_),
    asStr_eq_of_view (hf ⟨"name", .text "string", false⟩ ?_),
    canonFloat_eq_of_view (hf ⟨"operation_power_dbm", .float, false⟩ ?_),
    asStr_eq_of_view (hf ⟨"modulation", .text "model.ModulationFormat", false⟩ ?_),
    canonFloat_eq_of_view (hf ⟨"symbol_rate", .float, true⟩ ?_)⟩ <;>
  simp [Ty.fields, Ty.str]

theorem asTextMap_eq_of_view {m : String} {a b : Value}
    (h : view (n + 2) (.intMap (.text m)) a = view (n + 2) (.intMap (.text m)) b) :
    a.asTextMap = b.asTextMap :=
  sorted_entries_eq_of_view asStr asStr (fun _ => rfl) h

/-- A map of doubles, as a span configuration reads it, sees only the view once both zeros
are taken as one. -/
theorem asFloatMap_eq_of_view {a b : Value}
    (h : view (n + 2) (.intMap .float) a = view (n + 2) (.intMap .float) b) :
    a.asFloatMap.map (fun e => (e.1, canonFloat e.2)) =
      b.asFloatMap.map (fun e => (e.1, canonFloat e.2)) := by
  have hmap : ∀ c : Value, c.asFloatMap.map (fun e => (e.1, canonFloat e.2)) =
      (c.asMap.map fun e => (e.1, canonFloat e.2.asFloat)).mergeSort (fun p q => p.1 ≤ q.1) := by
    intro c
    rw [asFloatMap, List.map_mergeSort (s := fun (p q : Int × Float) => decide (p.1 ≤ q.1))
      (fun _ _ _ _ => rfl), List.map_map]
    rfl
  rw [hmap a, hmap b]
  exact sorted_entries_eq_of_view (fun x => canonFloat x.asFloat) asFloat (fun _ => rfl) h

theorem RoadmConfig.canonical_ofValue_eq {t : Ty}
    (ht : ∀ f ∈ Ty.roadmFields, f ∈ t.fields) (h₁ : Sound ok₁ (.record t) v₁)
    (h₂ : Sound ok₂ (.record t) v₂) (h : view (n + 3) (.record t) v₁ = view (n + 3) (.record t) v₂) :
    (RoadmConfig.ofValue v₁).canonical = (RoadmConfig.ofValue v₂).canonical := by
  have hf : ∀ f ∈ Ty.roadmFields, view (n + 2) f.shape (v₁.get f.key) =
      view (n + 2) f.shape (v₂.get f.key) := fun f hf => view_field h f (ht f hf)
  have hlevel : ⟨"leveling_power_dbm", .opt .float, true⟩ ∈ Ty.roadmFields := by
    simp [Ty.roadmFields]
  simp only [RoadmConfig.ofValue, RoadmConfig.canonical, RoadmConfig.mk.injEq]
  refine ⟨canonFloat_eq_of_view (hf ⟨"insertion_loss_db", .float, true⟩ ?_),
    asOptFloat_eq_of_view (.opt_of_get (h₁.field (ht _ hlevel)))
      (.opt_of_get (h₂.field (ht _ hlevel))) (hf _ hlevel),
    asTextMap_eq_of_view (hf ⟨"preamps", .intMap (.text "string"), true⟩ ?_),
    asTextMap_eq_of_view (hf ⟨"boosts", .intMap (.text "string"), true⟩ ?_)⟩ <;>
  simp [Ty.roadmFields]

theorem SpanConfig.canonical_ofValue_eq
    (h : view (n + 3) (.record .spanConfig) v₁ = view (n + 3) (.record .spanConfig) v₂) :
    (SpanConfig.ofValue v₁).canonical = (SpanConfig.ofValue v₂).canonical := by
  have hf := view_field h
  simp only [SpanConfig.ofValue, SpanConfig.canonical, SpanConfig.mk.injEq]
  refine ⟨canonFloat_eq_of_view (hf ⟨"length_km", .float, false⟩ ?_),
    canonFloat_eq_of_view (hf ⟨"attenuation_db_per_km", .float, true⟩ ?_),
    asFloatMap_eq_of_view (hf ⟨"channel_attenuation", .intMap .float, true⟩ ?_),
    canonFloat_eq_of_view (hf ⟨"dispersion_ps_nm_km", .float, true⟩ ?_),
    canonFloat_eq_of_view (hf ⟨"nonlinear_coefficient", .float, true⟩ ?_),
    canonFloat_eq_of_view (hf ⟨"raman_gain", .float, true⟩ ?_),
    canonFloat_eq_of_view (hf ⟨"effective_area_um2", .float, true⟩ ?_),
    canonFloat_eq_of_view (hf ⟨"raman_bandwidth_hz", .float, true⟩ ?_),
    asBool_eq_of_view (hf ⟨"disable_nli", .bool, true⟩ ?_)⟩ <;>
  simp [Ty.fields]

theorem LinkDesc.canonical_ofValue_eq (h₁ : Sound ok₁ (.record .linkConfig) v₁)
    (h₂ : Sound ok₂ (.record .linkConfig) v₂)
    (h : view (n + 6) (.record .linkConfig) v₁ = view (n + 6) (.record .linkConfig) v₂) :
    (LinkDesc.ofValue v₁).canonical = (LinkDesc.ofValue v₂).canonical := by
  have hf := view_field h
  have hspans : ⟨"spans", .list (.record .spanSpec), false⟩ ∈ Ty.fields .linkConfig := by
    simp [Ty.fields]
  -- a span is read from its own record and the configuration record inside it
  have hspan : ∀ x y, Sound ok₁ (.record .spanSpec) x → Sound ok₂ (.record .spanSpec) y →
      view (n + 4) (.record .spanSpec) x = view (n + 4) (.record .spanSpec) y →
      SpanDesc.canonical ⟨SpanConfig.ofValue (x.get "span"), (x.get "amplifier").asStr⟩ =
        SpanDesc.canonical ⟨SpanConfig.ofValue (y.get "span"), (y.get "amplifier").asStr⟩ := by
    intro x y _ _ hxy
    have hg := view_field hxy
    simp only [SpanDesc.canonical, SpanDesc.mk.injEq]
    exact ⟨SpanConfig.canonical_ofValue_eq
        (hg ⟨"span", .record .spanConfig, false⟩ (by simp [Ty.fields])),
      asStr_eq_of_view (hg ⟨"amplifier", .text "string", true⟩ (by simp [Ty.fields]))⟩
  have hspanList : canonList SpanDesc.canonical ((v₁.get "spans").asOptList.map (·.map fun s =>
        ⟨SpanConfig.ofValue (s.get "span"), (s.get "amplifier").asStr⟩)) =
      canonList SpanDesc.canonical ((v₂.get "spans").asOptList.map (·.map fun s =>
        ⟨SpanConfig.ofValue (s.get "span"), (s.get "amplifier").asStr⟩)) := by
    apply canonList_eq_of_map_eq
    have ha := h₁.field hspans
    have hb := h₂.field hspans
    rw [getD_map_map, getD_map_map, asOptList_getD ha, asOptList_getD hb, List.map_map,
      List.map_map]
    exact map_asList_eq_of_view ha hb hspan (hf _ hspans)
  simp only [LinkDesc.ofValue, LinkDesc.canonical, LinkDesc.mk.injEq]
  refine ⟨asStr_eq_of_view (hf ⟨"name", .text "string", true⟩ ?_),
    asStr_eq_of_view (hf ⟨"src", .text "string", false⟩ ?_),
    asStr_eq_of_view (hf ⟨"dst", .text "string", false⟩ ?_),
    asInt_eq_of_view (hf ⟨"out_port", .int, false⟩ ?_),
    asInt_eq_of_view (hf ⟨"in_port", .int, false⟩ ?_),
    asStr_eq_of_view (hf ⟨"boost", .text "string", true⟩ ?_), hspanList,
    asStr_eq_of_view (hf ⟨"srs", .text "string", true⟩ ?_)⟩ <;>
  simp [Ty.fields, Ty.str]

theorem BindingDesc.ofValue_eq_of_view
    (h : view (n + 2) (.record .bindingDesc) v₁ = view (n + 2) (.record .bindingDesc) v₂) :
    BindingDesc.ofValue v₁ = BindingDesc.ofValue v₂ := by
  have hf := view_field h
  simp only [BindingDesc.ofValue, BindingDesc.mk.injEq]
  refine ⟨asStr_eq_of_view (hf ⟨"terminal", .text "string", false⟩ ?_),
    asInt_eq_of_view (hf ⟨"transceiver", .int, false⟩ ?_),
    asInt_eq_of_view (hf ⟨"channel", .int, false⟩ ?_),
    asInt_eq_of_view (hf ⟨"port", .int, false⟩ ?_)⟩ <;>
  simp [Ty.fields, Ty.bindingFields, Ty.str]

theorem Control.canonical_ofValue_eq (h₁ : Sound ok₁ (.record .control) v₁)
    (h₂ : Sound ok₂ (.record .control) v₂)
    (h : view (n + 5) (.record .control) v₁ = view (n + 5) (.record .control) v₂) :
    (Control.ofValue v₁).canonical = (Control.ofValue v₂).canonical := by
  have hf := view_field h
  have hrules : ⟨"switch_rules", .list (.record .ruleDesc), true⟩ ∈ Ty.fields .control := by
    simp [Ty.fields]
  have hvoa : ⟨"voa", .list (.record .voaDesc), true⟩ ∈ Ty.fields .control := by
    simp [Ty.fields]
  have htx : ⟨"tx", .list (.record .bindingDesc), true⟩ ∈ Ty.fields .control := by
    simp [Ty.fields]
  have hrx : ⟨"rx", .list (.record .bindingDesc), true⟩ ∈ Ty.fields .control := by
    simp [Ty.fields]
  have hon : ⟨"turn_on", .list (.text "string"), true⟩ ∈ Ty.fields .control := by
    simp [Ty.fields]
  -- a rule's channel list is read as integers, given or not
  have hrule : ∀ x y, Sound ok₁ (.record .ruleDesc) x → Sound ok₂ (.record .ruleDesc) y →
      view (n + 3) (.record .ruleDesc) x = view (n + 3) (.record .ruleDesc) y →
      RuleDesc.canonical ⟨(x.get "roadm").asStr, (x.get "id").asStr, (x.get "in_port").asInt,
          (x.get "out_port").asInt, (x.get "channels").asOptList.map (·.map Value.asInt)⟩ =
        RuleDesc.canonical ⟨(y.get "roadm").asStr, (y.get "id").asStr, (y.get "in_port").asInt,
          (y.get "out_port").asInt, (y.get "channels").asOptList.map (·.map Value.asInt)⟩ := by
    intro x y hx hy hxy
    have hg := view_field hxy
    have hch : ⟨"channels", .list .int, false⟩ ∈ Ty.fields .ruleDesc := by simp [Ty.fields]
    have hchannels : canonList (fun c => c) ((x.get "channels").asOptList.map (·.map Value.asInt)) =
        canonList (fun c => c) ((y.get "channels").asOptList.map (·.map Value.asInt)) := by
      apply canonList_eq_of_map_eq
      have ha := hx.field hch
      have hb := hy.field hch
      rw [getD_map_map, getD_map_map, asOptList_getD ha, asOptList_getD hb, List.map_map,
        List.map_map]
      exact map_asList_eq_of_view ha hb (fun _ _ _ _ he => asInt_eq_of_view he) (hg _ hch)
    simp only [RuleDesc.canonical, RuleDesc.mk.injEq]
    refine ⟨asStr_eq_of_view (hg ⟨"roadm", .text "string", false⟩ ?_),
      asStr_eq_of_view (hg ⟨"id", .text "string", false⟩ ?_),
      asInt_eq_of_view (hg ⟨"in_port", .int, false⟩ ?_),
      asInt_eq_of_view (hg ⟨"out_port", .int, false⟩ ?_), hchannels⟩ <;>
    simp [Ty.fields, Ty.str]
  have hvoaItem : ∀ x y, Sound ok₁ (.record .voaDesc) x → Sound ok₂ (.record .voaDesc) y →
      view (n + 3) (.record .voaDesc) x = view (n + 3) (.record .voaDesc) y →
      VoaDesc.canonical ⟨(x.get "roadm").asStr, (x.get "channel").asInt, (x.get "out_port").asInt,
          (x.get "power_dbm").asFloat⟩ =
        VoaDesc.canonical ⟨(y.get "roadm").asStr, (y.get "channel").asInt,
          (y.get "out_port").asInt, (y.get "power_dbm").asFloat⟩ := by
    intro x y _ _ hxy
    have hg := view_field hxy
    simp only [VoaDesc.canonical, VoaDesc.mk.injEq]
    refine ⟨asStr_eq_of_view (hg ⟨"roadm", .text "string", false⟩ ?_),
      asInt_eq_of_view (hg ⟨"channel", .int, false⟩ ?_),
      asInt_eq_of_view (hg ⟨"out_port", .int, false⟩ ?_),
      canonFloat_eq_of_view (hg ⟨"power_dbm", .float, false⟩ ?_)⟩ <;>
    simp [Ty.fields, Ty.str]
  have hbinding : ∀ x y, Sound ok₁ (.record .bindingDesc) x → Sound ok₂ (.record .bindingDesc) y →
      view (n + 3) (.record .bindingDesc) x = view (n + 3) (.record .bindingDesc) y →
      BindingDesc.ofValue x = BindingDesc.ofValue y :=
    fun _ _ _ _ hxy => BindingDesc.ofValue_eq_of_view hxy
  simp only [Control.ofValue, Control.canonical, Control.mk.injEq, List.map_map]
  exact ⟨map_asList_eq_of_view (h₁.field hrules) (h₂.field hrules) hrule (hf _ hrules),
    map_asList_eq_of_view (h₁.field hvoa) (h₂.field hvoa) hvoaItem (hf _ hvoa),
    map_asList_eq_of_view (h₁.field htx) (h₂.field htx) hbinding (hf _ htx),
    map_asList_eq_of_view (h₁.field hrx) (h₂.field hrx) hbinding (hf _ hrx),
    map_asList_eq_of_view (h₁.field hon) (h₂.field hon) (fun _ _ _ _ he => asStr_eq_of_view he)
      (hf _ hon),
    asBool_eq_of_view (hf ⟨"safe", .bool, true⟩ (by simp [Ty.fields]))⟩

/-- An optional record of either value is there in both or in neither when they are seen
alike, and seen alike when there. -/
theorem opt_record_of_view {t : Ty} {a b : Value}
    (h : view (n + 2) (.opt (.record t)) a = view (n + 2) (.opt (.record t)) b) :
    (a = nil ∧ b = nil) ∨
      (a.isNil = false ∧ b.isNil = false ∧ view (n + 1) (.record t) a = view (n + 1) (.record t) b) := by
  have hopt : ∀ c : Value, view (n + 2) (.opt (.record t)) c =
      if c.isNil then nil else view (n + 1) (.record t) c := fun _ => rfl
  rw [hopt, hopt] at h
  cases ha : a.isNil <;> cases hb : b.isNil <;> simp only [ha, hb, Bool.false_eq_true, if_true,
    if_false] at h
  · exact .inr ⟨rfl, rfl, h⟩
  · simp at h
  · simp at h
  · exact .inl ⟨isNil_iff.mp ha, isNil_iff.mp hb⟩

theorem Sound.record_of_opt {ok : Float → Prop} {t : Ty} {a : Value}
    (h : a = nil ∨ Sound ok (.opt (.record t)) a) (ha : a.isNil = false) : Sound ok (.record t) a := by
  cases Sound.opt_of_get h with
  | none => simp [isNil] at ha
  | some h => exact h

theorem Description.canonical_ofValue_eq (h₁ : Sound ok₁ (.record .description) v₁)
    (h₂ : Sound ok₂ (.record .description) v₂)
    (h : view (n + 8) (.record .description) v₁ = view (n + 8) (.record .description) v₂) :
    (Description.ofValue v₁).canonical = (Description.ofValue v₂).canonical := by
  have hf := view_field h
  have hamps : ⟨"amplifiers", .list (.record .amplifierDesc), true⟩ ∈ Ty.fields .description := by
    simp [Ty.fields]
  have hterms : ⟨"terminals", .list (.record .terminalDesc), true⟩ ∈ Ty.fields .description := by
    simp [Ty.fields]
  have hroadms : ⟨"roadms", .list (.record .roadmDesc), true⟩ ∈ Ty.fields .description := by
    simp [Ty.fields]
  have hlinks : ⟨"links", .list (.record .linkConfig), true⟩ ∈ Ty.fields .description := by
    simp [Ty.fields]
  have hcontrol : ⟨"control", .opt (.record .control), true⟩ ∈ Ty.fields .description := by
    simp [Ty.fields]
  have hamp : ∀ x y, Sound ok₁ (.record .amplifierDesc) x → Sound ok₂ (.record .amplifierDesc) y →
      view (n + 7) (.record .amplifierDesc) x = view (n + 7) (.record .amplifierDesc) y →
      AmplifierDesc.canonical ⟨(x.get "name").asStr, AmplifierConfig.ofValue x⟩ =
        AmplifierDesc.canonical ⟨(y.get "name").asStr, AmplifierConfig.ofValue y⟩ := by
    intro x y hx hy hxy
    simp only [AmplifierDesc.canonical, AmplifierDesc.mk.injEq]
    exact ⟨asStr_eq_of_view (view_field hxy ⟨"name", .text "string", false⟩ (by simp [Ty.fields, Ty.str])),
      AmplifierConfig.canonical_ofValue_eq (fun f hf => by simp [Ty.fields, hf]) hx hy hxy⟩
  have hterm : ∀ x y, Sound ok₁ (.record .terminalDesc) x → Sound ok₂ (.record .terminalDesc) y →
      view (n + 7) (.record .terminalDesc) x = view (n + 7) (.record .terminalDesc) y →
      TerminalDesc.canonical ⟨(x.get "name").asStr,
          (x.get "transceivers").asList.map Transceiver.ofValue⟩ =
        TerminalDesc.canonical ⟨(y.get "name").asStr,
          (y.get "transceivers").asList.map Transceiver.ofValue⟩ := by
    intro x y hx hy hxy
    have hg := view_field hxy
    have htrx : ⟨"transceivers", .list (.record .transceiver), true⟩ ∈ Ty.fields .terminalDesc := by
      simp [Ty.fields]
    simp only [TerminalDesc.canonical, TerminalDesc.mk.injEq, List.map_map]
    exact ⟨asStr_eq_of_view (hg ⟨"name", .text "string", false⟩ (by simp [Ty.fields, Ty.str])),
      map_asList_eq_of_view (hx.field htrx) (hy.field htrx)
        (fun _ _ _ _ he => Transceiver.canonical_ofValue_eq he) (hg _ htrx)⟩
  have hroadm : ∀ x y, Sound ok₁ (.record .roadmDesc) x → Sound ok₂ (.record .roadmDesc) y →
      view (n + 7) (.record .roadmDesc) x = view (n + 7) (.record .roadmDesc) y →
      RoadmDesc.canonical ⟨(x.get "name").asStr, RoadmConfig.ofValue x⟩ =
        RoadmDesc.canonical ⟨(y.get "name").asStr, RoadmConfig.ofValue y⟩ := by
    intro x y hx hy hxy
    simp only [RoadmDesc.canonical, RoadmDesc.mk.injEq]
    exact ⟨asStr_eq_of_view (view_field hxy ⟨"name", .text "string", false⟩ (by simp [Ty.fields, Ty.str])),
      RoadmConfig.canonical_ofValue_eq (fun f hf => by simp [Ty.fields, hf]) hx hy hxy⟩
  simp only [Description.ofValue, Description.canonical, Description.mk.injEq, List.map_map]
  refine ⟨asStr_eq_of_view (hf ⟨"name", .text "string", true⟩ (by simp [Ty.fields])),
    map_asList_eq_of_view (h₁.field hamps) (h₂.field hamps) hamp (hf _ hamps),
    map_asList_eq_of_view (h₁.field hterms) (h₂.field hterms) hterm (hf _ hterms),
    map_asList_eq_of_view (h₁.field hroadms) (h₂.field hroadms) hroadm (hf _ hroadms),
    map_asList_eq_of_view (h₁.field hlinks) (h₂.field hlinks)
      (fun _ _ hx hy he => LinkDesc.canonical_ofValue_eq hx hy he) (hf _ hlinks), ?_⟩
  -- the control sections are both absent, or both present and seen alike
  rcases opt_record_of_view (hf _ hcontrol) with ⟨ha, hb⟩ | ⟨ha, hb, hab⟩
  · rw [ha, hb]
  · have heq := Control.canonical_ofValue_eq (Sound.record_of_opt (h₁.field hcontrol) ha)
      (Sound.record_of_opt (h₂.field hcontrol) hb) hab
    split
    · rename_i hnil
      simp [hnil, isNil] at ha
    · split
      · rename_i hnil
        simp [hnil, isNil] at hb
      · exact congrArg some heq

end Seen

end WdmNet
