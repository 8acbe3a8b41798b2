import WdmNet.Proofs.Topology.Canonical
/-!
Descriptions as reading leaves them.

A description read from a document has every integer within 64 bits and every map sorted by
key with each key once (`Description.Readable`); `Description.readable_ofValue` shows it of
every value the readers produce. Such a description written as a value reads back as itself
(`Description.ofValue_toValue`), and the value it is written as has the form readers produce,
floats as the description holds them (`Description.sound_toValue`).
-/

namespace WdmNet

open Schema Schema.Value

/-! ### Integers and maps as reading leaves them -/

/-- The integers of an amplifier configuration. -/
def AmplifierConfig.ints (c : AmplifierConfig) : List Int := [c.maxAgcIterations]

/-- The integers of a link: its ports. -/
def LinkDesc.ints (l : LinkDesc) : List Int := [l.outPort, l.inPort]

/-- The integers of a switch rule: its ports and channels. -/
def RuleDesc.ints (r : RuleDesc) : List Int := r.inPort :: r.outPort :: r.channels.getD []

/-- The integers of a VOA target. -/
def VoaDesc.ints (v : VoaDesc) : List Int := [v.channel, v.outPort]

/-- The integers of a binding. -/
def BindingDesc.ints (b : BindingDesc) : List Int := [b.transceiver, b.channel, b.port]

/-- The integers of a control section. -/
def Control.ints (c : Control) : List Int :=
  c.switchRules.flatMap RuleDesc.ints ++ c.voa.flatMap VoaDesc.ints ++
    (c.tx ++ c.rx).flatMap BindingDesc.ints

/-- Every integer field of a description (map keys apart). -/
def Description.ints (d : Description) : List Int :=
  d.amplifiers.flatMap (·.config.ints) ++ d.terminals.flatMap (·.transceivers.map (·.id)) ++
    d.links.flatMap LinkDesc.ints ++ (d.control.map Control.ints).getD []

/-- The keys of the maps of a ROADM configuration. -/
def RoadmConfig.mapKeys (c : RoadmConfig) : List (List Int) :=
  [c.preamps.map (·.1), c.boosts.map (·.1)]

/-- The keys of the attenuation overrides of a span configuration. -/
def SpanConfig.mapKeys (c : SpanConfig) : List (List Int) := [c.channelAttenuation.map (·.1)]

/-- The keys of every map of a description. -/
def Description.mapKeys (d : Description) : List (List Int) :=
  d.roadms.flatMap (·.config.mapKeys) ++
    d.links.flatMap fun l => (l.spans.getD []).flatMap (·.span.mapKeys)

/-- A description as reading leaves one: every integer within 64 bits, every map sorted by
key with each key once and every key within 64 bits. -/
structure Description.Readable (d : Description) : Prop where
  ints : ∀ i ∈ d.ints, InInt64 i
  keys : ∀ ks ∈ d.mapKeys, ks.Pairwise (· < ·) ∧ ∀ k ∈ ks, InInt64 k

/-! ### What reading leaves -/

section Reading

variable {ok : Float → Prop}

/-- An item of a list field of a record, read by `F`, is read from a record of the item's
shape. -/
theorem exists_of_mem_map_asList {t : Ty} {v : Value} {key : String} {s : Shape} {b : Bool}
    {γ : Type} {F : Value → γ} {y : γ} (hv : Sound ok (.record t) v)
    (hf : ⟨key, .list s, b⟩ ∈ t.fields) (hy : y ∈ (v.get key).asList.map F) :
    ∃ x, Sound ok s x ∧ F x = y := by
  obtain ⟨x, hx, rfl⟩ := List.mem_map.mp hy
  exact ⟨x, Sound.items_of_get (hv.field hf) x hx, rfl⟩

theorem inInt64_asInt_field {t : Ty} {v : Value} {key : String}
    (hv : Sound ok (.record t) v) (hf : ∃ b, ⟨key, .int, b⟩ ∈ t.fields) :
    InInt64 (v.get key).asInt := by
  obtain ⟨b, hb⟩ := hf
  exact Sound.inInt64_asInt (hv.field hb)

/-- The keys of a map as a ROADM or span configuration reads it: strictly increasing, each
within 64 bits. -/
theorem keys_sorted_entries {s : Shape} {β : Type} (get : Value → β) {x : Value}
    (hx : x = nil ∨ Sound ok (.intMap s) x) :
    (((x.asMap.map fun e => (e.1, get e.2)).mergeSort fun a b => a.1 ≤ b.1).map (·.1)).Pairwise
      (· < ·) ∧
    ∀ k ∈ ((x.asMap.map fun e => (e.1, get e.2)).mergeSort fun a b => a.1 ≤ b.1).map (·.1),
      InInt64 k := by
  obtain ⟨hnd, hkeys, -⟩ := Sound.entries_of_get hx
  have hmap : (x.asMap.map fun e => (e.1, get e.2)).map (·.1) = x.asMap.map (·.1) := by
    simp [List.map_map, Function.comp_def]
  refine ⟨keys_mergeSort_lt _ (hmap ▸ hnd), fun k hk => ?_⟩
  obtain ⟨e, he, rfl⟩ := List.mem_map.mp hk
  obtain ⟨e', he', rfl⟩ := List.mem_map.mp ((List.mergeSort_perm _ _).mem_iff.mp he)
  exact hkeys e' he'

theorem Sound.field_of_get {t : Ty} {v : Value} (h : v = nil ∨ Sound ok (.record t) v) {f : Field}
    (hf : f ∈ t.fields) : v.get f.key = nil ∨ Sound ok f.shape (v.get f.key) := by
  rcases h with rfl | h
  · exact .inl rfl
  · exact h.field hf

theorem Control.ints_ofValue {c : Value} (hc : Sound ok (.record .control) c) :
    ∀ i ∈ (Control.ofValue c).ints, InInt64 i := by
  intro i hi
  simp only [Control.ints, Control.ofValue, List.mem_append, List.mem_flatMap] at hi
  rcases hi with (⟨r, hr, hi⟩ | ⟨w, hw, hi⟩) | ⟨b, hb, hi⟩
  · obtain ⟨x, hx, rfl⟩ := exists_of_mem_map_asList (s := .record .ruleDesc) (b := true) hc
      (by simp [Ty.fields]) hr
    simp only [RuleDesc.ints, List.mem_cons] at hi
    rcases hi with rfl | rfl | hi
    · exact inInt64_asInt_field hx (by simp [Ty.fields])
    · exact inInt64_asInt_field hx (by simp [Ty.fields])
    · have hch := hx.field (f := ⟨"channels", .list .int, false⟩) (by simp [Ty.fields])
      rw [getD_map_map, asOptList_getD hch] at hi
      obtain ⟨y, hy, rfl⟩ := List.mem_map.mp hi
      exact Sound.inInt64_asInt (.inr (Sound.items_of_get hch y hy))
  · obtain ⟨x, hx, rfl⟩ := exists_of_mem_map_asList (s := .record .voaDesc) (b := true) hc
      (by simp [Ty.fields]) hw
    simp only [VoaDesc.ints, List.mem_cons, List.not_mem_nil, or_false] at hi
    rcases hi with rfl | rfl
    · exact inInt64_asInt_field hx (by simp [Ty.fields])
    · exact inInt64_asInt_field hx (by simp [Ty.fields])
  · have hbind : ∀ key, key ∈ ["tx", "rx"] → b ∈ (c.get key).asList.map BindingDesc.ofValue →
        InInt64 i := by
      intro key hkey hb
      obtain ⟨x, hx, rfl⟩ := exists_of_mem_map_asList (s := .record .bindingDesc) (b := true) hc
        (by simp only [List.mem_cons, List.not_mem_nil, or_false] at hkey
            rcases hkey with rfl | rfl <;> simp [Ty.fields]) hb
      simp only [BindingDesc.ints, BindingDesc.ofValue, List.mem_cons, List.not_mem_nil,
        or_false] at hi
      rcases hi with rfl | rfl | rfl <;>
      exact inInt64_asInt_field hx (by simp [Ty.fields, Ty.bindingFields])
    rcases hb with hb | hb
    · exact hbind "tx" (by simp) hb
    · exact hbind "rx" (by simp) hb

theorem Description.ints_ofValue {v : Value} (hv : Sound ok (.record .description) v) :
    ∀ i ∈ (Description.ofValue v).ints, InInt64 i := by
  intro i hi
  simp only [Description.ints, List.mem_append, List.mem_flatMap] at hi
  rcases hi with ((⟨a, ha, hi⟩ | ⟨t, ht, hi⟩) | ⟨l, hl, hi⟩) | hi
  · obtain ⟨x, hx, rfl⟩ := exists_of_mem_map_asList (s := .record .amplifierDesc) (b := true) hv
      (by simp [Ty.fields]) ha
    simp only [AmplifierConfig.ints, AmplifierConfig.ofValue, List.mem_singleton] at hi
    exact hi ▸ inInt64_asInt_field hx (by simp [Ty.fields, Ty.amplifierFields])
  · obtain ⟨x, hx, rfl⟩ := exists_of_mem_map_asList (s := .record .terminalDesc) (b := true) hv
      (by simp [Ty.fields]) ht
    obtain ⟨trx, htrx, rfl⟩ := List.mem_map.mp hi
    obtain ⟨y, hy, rfl⟩ := exists_of_mem_map_asList (s := .record .transceiver) (b := true) hx
      (by simp [Ty.fields]) htrx
    exact inInt64_asInt_field hy (by simp [Ty.fields])
  · obtain ⟨x, hx, rfl⟩ := exists_of_mem_map_asList (s := .record .linkConfig) (b := true) hv
      (by simp [Ty.fields]) hl
    simp only [LinkDesc.ints, LinkDesc.ofValue, List.mem_cons, List.not_mem_nil, or_false] at hi
    rcases hi with rfl | rfl
    · exact inInt64_asInt_field hx (by simp [Ty.fields])
    · exact inInt64_asInt_field hx (by simp [Ty.fields])
  · have hc := hv.field (f := ⟨"control", .opt (.record .control), true⟩) (by simp [Ty.fields])
    simp only [Description.ofValue] at hi
    split at hi
    · simp at hi
    · rename_i hne
      have hnil : (v.get "control").isNil = false := by
        cases h : v.get "control" <;> simp_all [isNil]
      exact Control.ints_ofValue (Sound.record_of_opt hc hnil) i (by simpa using hi)

theorem Description.mapKeys_ofValue {v : Value} (hv : Sound ok (.record .description) v) :
    ∀ ks ∈ (Description.ofValue v).mapKeys, ks.Pairwise (· < ·) ∧ ∀ k ∈ ks, InInt64 k := by
  intro ks hks
  simp only [Description.mapKeys, List.mem_append, List.mem_flatMap] at hks
  rcases hks with ⟨r, hr, hks⟩ | ⟨l, hl, s, hs, hks⟩
  · obtain ⟨x, hx, rfl⟩ := exists_of_mem_map_asList (s := .record .roadmDesc) (b := true) hv
      (by simp [Ty.fields]) hr
    simp only [RoadmConfig.mapKeys, RoadmConfig.ofValue, asTextMap, List.mem_cons,
      List.not_mem_nil, or_false] at hks
    rcases hks with rfl | rfl
    · exact keys_sorted_entries asStr (hx.field (f := ⟨"preamps", .intMap (.text "string"), true⟩)
        (by simp [Ty.fields, Ty.roadmFields]))
    · exact keys_sorted_entries asStr (hx.field (f := ⟨"boosts", .intMap (.text "string"), true⟩)
        (by simp [Ty.fields, Ty.roadmFields]))
  · obtain ⟨x, hx, rfl⟩ := exists_of_mem_map_asList (s := .record .linkConfig) (b := true) hv
      (by simp [Ty.fields]) hl
    have hsp := hx.field (f := ⟨"spans", .list (.record .spanSpec), false⟩) (by simp [Ty.fields])
    simp only [LinkDesc.ofValue] at hs
    rw [getD_map_map, asOptList_getD hsp] at hs
    obtain ⟨y, hy, rfl⟩ := List.mem_map.mp hs
    have hspec := Sound.items_of_get hsp y hy
    have hspan := hspec.field (f := ⟨"span", .record .spanConfig, false⟩) (by simp [Ty.fields])
    simp only [SpanConfig.mapKeys, SpanConfig.ofValue, asFloatMap, List.mem_singleton] at hks
    subst hks
    exact keys_sorted_entries asFloat
      (Sound.field_of_get hspan (f := ⟨"channel_attenuation", .intMap .float, true⟩)
        (by simp [Ty.fields]))

theorem Description.readable_ofValue {v : Value} (hv : Sound ok (.record .description) v) :
    (Description.ofValue v).Readable :=
  ⟨Description.ints_ofValue hv, Description.mapKeys_ofValue hv⟩

end Reading

/-! ### Writing what was read -/

section Writing

theorem mergeSort_key_eq_self {β : Type} {m : List (Int × β)} (hm : (m.map (·.1)).Pairwise (· < ·)) :
    m.mergeSort (fun a b => a.1 ≤ b.1) = m :=
  List.mergeSort_of_pairwise ((List.pairwise_map.mp hm).imp fun h => by simpa using le_of_lt h)

theorem asTextMap_textMapValue {m : List (Int × String)} (hm : (m.map (·.1)).Pairwise (· < ·)) :
    (textMapValue m).asTextMap = m := by
  unfold textMapValue
  split
  · rename_i h
    simp only [List.isEmpty_iff] at h
    simp [h, asTextMap, asMap]
  · simpa [asTextMap, asMap, List.map_map, Function.comp_def, asStr] using
      mergeSort_key_eq_self hm

theorem AmplifierConfig.ofValue_record (name : String) (c : AmplifierConfig) :
    AmplifierConfig.ofValue (.record (("name", .str name) :: c.fieldValues)) = c := by
  cases c with
  | mk gain noise wdg role agc iters =>
    cases noise <;>
    simp [AmplifierConfig.ofValue, AmplifierConfig.fieldValues, optFloatValue, Value.get,
      asFloat, asOptFloat, asStr, asInt]

theorem RoadmConfig.ofValue_record (name : String) {c : RoadmConfig}
    (hc : ∀ ks ∈ c.mapKeys, ks.Pairwise (· < ·)) :
    RoadmConfig.ofValue (.record (("name", .str name) :: c.fieldValues)) = c := by
  have hpre := hc (c.preamps.map (·.1)) (by simp [RoadmConfig.mapKeys])
  have hboost := hc (c.boosts.map (·.1)) (by simp [RoadmConfig.mapKeys])
  cases c with
  | mk loss level preamps boosts =>
    cases level <;>
    simp [RoadmConfig.ofValue, RoadmConfig.fieldValues, optFloatValue, Value.get, asFloat,
      asOptFloat, asTextMap_textMapValue hpre, asTextMap_textMapValue hboost]

theorem Transceiver.ofValue_toValue (t : Transceiver) : Transceiver.ofValue t.toValue = t := by
  simp [Transceiver.toValue, Transceiver.ofValue, Value.get, asInt, asStr, asFloat]

theorem SpanConfig.ofValue_toValue {c : SpanConfig} (hc : ∀ ks ∈ c.mapKeys, ks.Pairwise (· < ·)) :
    SpanConfig.ofValue c.toValue = c := by
  have hatt := hc (c.channelAttenuation.map (·.1)) (by simp [SpanConfig.mapKeys])
  have hmap : (if c.channelAttenuation.isEmpty then nil
      else .map (c.channelAttenuation.map fun e => (e.1, .float e.2))).asFloatMap =
        c.channelAttenuation := by
    split
    · rename_i h
      simp only [List.isEmpty_iff] at h
      simp [h, asFloatMap, asMap]
    · simpa [asFloatMap, asMap, List.map_map, Function.comp_def, asFloat] using
        mergeSort_key_eq_self hatt
  cases c
  simp only [SpanConfig.ofValue, SpanConfig.toValue] at hmap ⊢
  simpa [Value.get, asFloat, asBool] using hmap

theorem LinkDesc.ofValue_toValue {l : LinkDesc}
    (hl : ∀ s ∈ l.spans.getD [], ∀ ks ∈ s.span.mapKeys, ks.Pairwise (· < ·)) :
    LinkDesc.ofValue l.toValue = l := by
  cases l with
  | mk name src dst outPort inPort boost spans srs =>
    cases spans with
    | none => simp [LinkDesc.ofValue, LinkDesc.toValue, Value.get, asStr, asInt, asOptList]
    | some ss =>
      have hss : ss.map (fun s => (⟨SpanConfig.ofValue s.span.toValue, s.amplifier⟩ : SpanDesc)) =
          ss := by
        conv => rhs; rw [← List.map_id ss]
        exact List.map_congr_left fun s hs => by
          rw [SpanConfig.ofValue_toValue (hl s (by simpa using hs))]; rfl
      simpa [LinkDesc.ofValue, LinkDesc.toValue, Value.get, asStr, asInt, asOptList, items,
        List.map_map, Function.comp_def] using hss

theorem Control.ofValue_toValue (c : Control) : Control.ofValue c.toValue = c := by
  cases c with
  | mk rules voa tx rx turnOn safe =>
    simp [Control.ofValue, Control.toValue, Value.get, asStr, asInt, asFloat, asBool, asList,
      items, List.map_map, Function.comp_def, BindingDesc.ofValue, BindingDesc.toValue]
    -- what is left are the rules, whose channels come back as given or not given
    refine List.map_id'' (fun r => ?_) rules
    cases r with
    | mk roadm id inPort outPort channels =>
      cases channels <;> simp [asOptList, List.map_map, Function.comp_def, asInt]

theorem Description.ofValue_toValue {d : Description} (hk : ∀ ks ∈ d.mapKeys, ks.Pairwise (· < ·)) :
    Description.ofValue d.toValue = d := by
  cases d with
  | mk name amps terms roadms links control =>
    simp [Description.ofValue, Description.toValue, Value.get, asStr, asList, items, List.map_map,
      Function.comp_def, Transceiver.ofValue_toValue, AmplifierConfig.ofValue_record]
    refine ⟨(List.map_congr_left fun r hr => ?_).trans (List.map_id' roadms),
      (List.map_congr_left fun l hl => ?_).trans (List.map_id' links), ?_⟩
    · rw [RoadmConfig.ofValue_record r.name fun ks hks =>
        hk ks (by simp only [Description.mapKeys, List.mem_append, List.mem_flatMap]
                  exact .inl ⟨r, hr, hks⟩)]
    · exact LinkDesc.ofValue_toValue fun s hs ks hks =>
        hk ks (by simp only [Description.mapKeys, List.mem_append, List.mem_flatMap]
                  exact .inr ⟨l, hl, s, hs, hks⟩)
    · cases control with
      | none => rfl
      | some c => exact congrArg some (Control.ofValue_toValue c)

end Writing

/-! ### The form of a written description -/

section Written

variable {ok : Float → Prop}

theorem sound_optFloatValue {o : Option Float} (h : ∀ x ∈ o.toList, ok x) :
    Sound ok (.opt .float) (optFloatValue o) := by
  cases o with
  | none => exact .none _
  | some x => exact .some (.float (h x (by simp)))

/-- A map with strictly increasing keys within 64 bits, written as a value. -/
theorem sound_entries {s : Shape} {β : Type} {m : List (Int × β)} {g : β → Value}
    (hk : (m.map (·.1)).Pairwise (· < ·)) (hr : ∀ k ∈ m.map (·.1), InInt64 k)
    (hg : ∀ e ∈ m, Sound ok s (g e.2)) :
    Sound ok (.intMap s) (.map (m.map fun e => (e.1, g e.2))) := by
  refine .map ?_ ?_ ?_
  · have hnd := List.nodup_iff_pairwise_ne.mpr (hk.imp fun h => ne_of_lt h)
    simpa [List.map_map, Function.comp_def] using hnd
  · intro e he
    obtain ⟨e', he', rfl⟩ := List.mem_map.mp he
    exact hr e'.1 (List.mem_map_of_mem he')
  · intro e he
    obtain ⟨e', he', rfl⟩ := List.mem_map.mp he
    exact hg e' he'

theorem sound_textMapValue {name : String} {m : List (Int × String)}
    (hk : (m.map (·.1)).Pairwise (· < ·)) (hr : ∀ k ∈ m.map (·.1), InInt64 k) :
    Sound ok (.intMap (.text name)) (textMapValue m) := by
  unfold textMapValue
  split
  · exact .nilMap _
  · exact sound_entries (g := str) hk hr fun _ _ => .str _ _

theorem AmplifierDesc.sound_record {a : AmplifierDesc} (hi : ∀ i ∈ a.config.ints, InInt64 i)
    (hf : ∀ x ∈ a.config.floats, ok x) :
    Sound ok (.record .amplifierDesc) (.record (("name", .str a.name) :: a.config.fieldValues)) :=
  Sound.of_forall₂ rfl (.cons (.str _ _) (.cons (.float (hf _ (by simp [AmplifierConfig.floats])))
    (.cons (sound_optFloatValue fun x hx => hf x (by simp [AmplifierConfig.floats, hx]))
    (.cons (.str _ _) (.cons (.str _ _) (.cons (.str _ _)
    (.cons (.int (hi _ (by simp [AmplifierConfig.ints]))) .nil)))))))

theorem RoadmDesc.sound_record {r : RoadmDesc}
    (hk : ∀ ks ∈ r.config.mapKeys, ks.Pairwise (· < ·) ∧ ∀ k ∈ ks, InInt64 k)
    (hf : ∀ x ∈ r.config.floats, ok x) :
    Sound ok (.record .roadmDesc) (.record (("name", .str r.name) :: r.config.fieldValues)) := by
  have hpre := hk (r.config.preamps.map (·.1)) (by simp [RoadmConfig.mapKeys])
  have hboost := hk (r.config.boosts.map (·.1)) (by simp [RoadmConfig.mapKeys])
  exact Sound.of_forall₂ rfl (.cons (.str _ _)
    (.cons (.float (hf _ (by simp [RoadmConfig.floats])))
    (.cons (sound_optFloatValue fun x hx => hf x (by simp [RoadmConfig.floats, hx]))
    (.cons (sound_textMapValue hpre.1 hpre.2) (.cons (sound_textMapValue hboost.1 hboost.2) .nil)))))

theorem Transceiver.sound_toValue {t : Transceiver} (hid : InInt64 t.id)
    (hf : ∀ x ∈ t.floats, ok x) : Sound ok (.record .transceiver) t.toValue :=
  Sound.of_forall₂ rfl (.cons (.int hid) (.cons (.str _ _)
    (.cons (.float (hf _ (by simp [Transceiver.floats]))) (.cons (.str _ _)
    (.cons (.float (hf _ (by simp [Transceiver.floats]))) .nil)))))

theorem SpanConfig.sound_toValue {c : SpanConfig}
    (hk : ∀ ks ∈ c.mapKeys, ks.Pairwise (· < ·) ∧ ∀ k ∈ ks, InInt64 k)
    (hf : ∀ x ∈ c.floats, ok x) : Sound ok (.record .spanConfig) c.toValue := by
  have hatt := hk (c.channelAttenuation.map (·.1)) (by simp [SpanConfig.mapKeys])
  have hmap : Sound ok (.intMap .float) (if c.channelAttenuation.isEmpty then nil
      else .map (c.channelAttenuation.map fun e => (e.1, .float e.2))) := by
    split
    · exact .nilMap _
    · exact sound_entries (g := float) hatt.1 hatt.2 fun e he =>
        .float (hf _ (by
          simp only [SpanConfig.floats, List.mem_append]
          exact .inr (List.mem_map_of_mem he)))
  exact Sound.of_forall₂ rfl (.cons (.float (hf _ (by simp [SpanConfig.floats])))
    (.cons (.float (hf _ (by simp [SpanConfig.floats]))) (.cons hmap
    (.cons (.float (hf _ (by simp [SpanConfig.floats])))
    (.cons (.float (hf _ (by simp [SpanConfig.floats])))
    (.cons (.float (hf _ (by simp [SpanConfig.floats])))
    (.cons (.float (hf _ (by simp [SpanConfig.floats])))
    (.cons (.float (hf _ (by simp [SpanConfig.floats]))) (.cons (.bool _) .nil)))))))))

theorem LinkDesc.sound_toValue {l : LinkDesc} (hi : ∀ i ∈ l.ints, InInt64 i)
    (hk : ∀ s ∈ l.spans.getD [], ∀ ks ∈ s.span.mapKeys, ks.Pairwise (· < ·) ∧ ∀ k ∈ ks, InInt64 k)
    (hf : ∀ x ∈ l.floats, ok x) : Sound ok (.record .linkConfig) l.toValue := by
  cases l with
  | mk name src dst outPort inPort boost spans srs =>
    refine Sound.of_forall₂ rfl (.cons (.str _ _) (.cons (.str _ _) (.cons (.str _ _)
      (.cons (.int (hi _ (by simp [LinkDesc.ints]))) (.cons (.int (hi _ (by simp [LinkDesc.ints])))
      (.cons (.str _ _) (.cons ?_ (.cons (.str _ _) .nil))))))))
    -- the span list is written when given, and absent otherwise
    cases spans with
    | none => exact .nilList _
    | some ss =>
      refine .list (fun x hx => ?_) (fun _ h => absurd h List.not_mem_nil)
      obtain ⟨s, hs, rfl⟩ := List.mem_map.mp hx
      have hsf : ∀ x ∈ s.span.floats, ok x := fun x hx =>
        hf x (by simp only [LinkDesc.floats, Option.getD_some, List.mem_flatMap]; exact ⟨s, hs, hx⟩)
      exact Sound.of_forall₂ rfl (.cons (SpanConfig.sound_toValue (hk s hs) hsf)
        (.cons (.str _ _) .nil))

theorem BindingDesc.sound_toValue {b : BindingDesc} (hi : ∀ i ∈ b.ints, InInt64 i) :
    Sound ok (.record .bindingDesc) b.toValue :=
  Sound.of_forall₂ rfl (.cons (.str _ _) (.cons (.int (hi _ (by simp [BindingDesc.ints])))
    (.cons (.int (hi _ (by simp [BindingDesc.ints])))
    (.cons (.int (hi _ (by simp [BindingDesc.ints]))) .nil))))

theorem Control.sound_toValue {c : Control} (hi : ∀ i ∈ c.ints, InInt64 i)
    (hf : ∀ x ∈ c.floats, ok x) : Sound ok (.record .control) c.toValue := by
  have hvoa : Sound ok (.list (.record .voaDesc)) (.items (c.voa.map fun v =>
      .record [("roadm", .str v.roadm), ("channel", .int v.channel), ("out_port", .int v.outPort),
        ("power_dbm", .float v.powerDbm)])) := by
    refine .list (fun x hx => ?_) (fun _ h => absurd h List.not_mem_nil)
    obtain ⟨v, hv, rfl⟩ := List.mem_map.mp hx
    have hvi : ∀ i ∈ v.ints, InInt64 i := fun i hiv =>
      hi i (by simp only [Control.ints, List.mem_append, List.mem_flatMap]; exact .inl (.inr ⟨v, hv, hiv⟩))
    exact Sound.of_forall₂ rfl (.cons (.str _ _) (.cons (.int (hvi _ (by simp [VoaDesc.ints])))
      (.cons (.int (hvi _ (by simp [VoaDesc.ints])))
      (.cons (.float (hf _ (by simp only [Control.floats]; exact List.mem_map_of_mem hv))) .nil))))
  have hbind : ∀ bs : List BindingDesc, (∀ b ∈ bs, b ∈ c.tx ++ c.rx) →
      Sound ok (.list (.record .bindingDesc)) (.items (bs.map BindingDesc.toValue)) := by
    intro bs hbs
    refine .list (fun x hx => ?_) (fun _ h => absurd h List.not_mem_nil)
    obtain ⟨b, hb, rfl⟩ := List.mem_map.mp hx
    exact BindingDesc.sound_toValue fun i hib =>
      hi i (by simp only [Control.ints, List.mem_append, List.mem_flatMap]
               exact .inr ⟨b, List.mem_append.mp (hbs b hb), hib⟩)
  refine Sound.of_forall₂ rfl (.cons ?_ (.cons hvoa
    (.cons (hbind c.tx fun b hb => List.mem_append_left _ hb)
    (.cons (hbind c.rx fun b hb => List.mem_append_right _ hb)
    (.cons (.list (fun x hx => by obtain ⟨t, -, rfl⟩ := List.mem_map.mp hx; exact .str _ _)
      (fun _ h => absurd h List.not_mem_nil))
    (.cons (.bool _) .nil))))))
  -- the switch rules, each with its channel list written when given and absent otherwise
  refine .list (fun x hx => ?_) (fun _ h => absurd h List.not_mem_nil)
  obtain ⟨r, hr, rfl⟩ := List.mem_map.mp hx
  have hri : ∀ i ∈ r.ints, InInt64 i := fun i hir =>
    hi i (by simp only [Control.ints, List.mem_append, List.mem_flatMap]; exact .inl (.inl ⟨r, hr, hir⟩))
  refine Sound.of_forall₂ rfl (.cons (.str _ _) (.cons (.str _ _)
    (.cons (.int (hri _ (by simp [RuleDesc.ints]))) (.cons (.int (hri _ (by simp [RuleDesc.ints])))
    (.cons ?_ .nil)))))
  cases r with
  | mk roadm id inPort outPort channels =>
    cases channels with
    | none => exact .nilList _
    | some chs =>
      refine .list (fun x hx => ?_) (fun _ h => absurd h List.not_mem_nil)
      obtain ⟨k, hk, rfl⟩ := List.mem_map.mp hx
      exact .int (hri k (by simp [RuleDesc.ints, hk]))

theorem Description.sound_toValue {d : Description} (hd : d.Readable) (hf : ∀ x ∈ d.floats, ok x) :
    Sound ok (.record .description) d.toValue := by
  have hamps : Sound ok (.list (.record .amplifierDesc)) (.items (d.amplifiers.map fun a =>
      .record (("name", .str a.name) :: a.config.fieldValues))) := by
    refine .list (fun x hx => ?_) (fun _ h => absurd h List.not_mem_nil)
    obtain ⟨a, ha, rfl⟩ := List.mem_map.mp hx
    refine AmplifierDesc.sound_record (fun i hia => hd.ints i ?_) (fun x hxa => hf x ?_)
    · simp only [Description.ints, List.mem_append, List.mem_flatMap]
      exact .inl (.inl (.inl ⟨a, ha, hia⟩))
    · simp only [Description.floats, List.mem_append, List.mem_flatMap]
      exact .inl (.inl (.inl (.inl ⟨a, ha, hxa⟩)))
  have hterms : Sound ok (.list (.record .terminalDesc)) (.items (d.terminals.map fun t =>
      .record [("name", .str t.name), ("transceivers", .items (t.transceivers.map Transceiver.toValue))])) := by
    refine .list (fun x hx => ?_) (fun _ h => absurd h List.not_mem_nil)
    obtain ⟨t, ht, rfl⟩ := List.mem_map.mp hx
    refine Sound.of_forall₂ rfl (.cons (.str _ _) (.cons (.list (fun y hy => ?_) (fun _ h => absurd h List.not_mem_nil)) .nil))
    obtain ⟨trx, htrx, rfl⟩ := List.mem_map.mp hy
    refine Transceiver.sound_toValue (hd.ints _ ?_) (fun x hxt => hf x ?_)
    · simp only [Description.ints, List.mem_append, List.mem_flatMap, List.mem_map]
      exact .inl (.inl (.inr ⟨t, ht, trx, htrx, rfl⟩))
    · simp only [Description.floats, List.mem_append, List.mem_flatMap]
      exact .inl (.inl (.inl (.inr ⟨t, ht, trx, htrx, hxt⟩)))
  have hroadms : Sound ok (.list (.record .roadmDesc)) (.items (d.roadms.map fun r =>
      .record (("name", .str r.name) :: r.config.fieldValues))) := by
    refine .list (fun x hx => ?_) (fun _ h => absurd h List.not_mem_nil)
    obtain ⟨r, hr, rfl⟩ := List.mem_map.mp hx
    refine RoadmDesc.sound_record (fun ks hks => hd.keys ks ?_) (fun x hxr => hf x ?_)
    · simp only [Description.mapKeys, List.mem_append, List.mem_flatMap]
      exact .inl ⟨r, hr, hks⟩
    · simp only [Description.floats, List.mem_append, List.mem_flatMap]
      exact .inl (.inl (.inr ⟨r, hr, hxr⟩))
  have hlinks : Sound ok (.list (.record .linkConfig)) (.items (d.links.map LinkDesc.toValue)) := by
    refine .list (fun x hx => ?_) (fun _ h => absurd h List.not_mem_nil)
    obtain ⟨l, hl, rfl⟩ := List.mem_map.mp hx
    refine LinkDesc.sound_toValue (fun i hil => hd.ints i ?_) (fun s hs ks hks => hd.keys ks ?_)
      (fun x hxl => hf x ?_)
    · simp only [Description.ints, List.mem_append, List.mem_flatMap]
      exact .inl (.inr ⟨l, hl, hil⟩)
    · simp only [Description.mapKeys, List.mem_append, List.mem_flatMap]
      exact .inr ⟨l, hl, s, hs, hks⟩
    · simp only [Description.floats, List.mem_append, List.mem_flatMap]
      exact .inl (.inr ⟨l, hl, hxl⟩)
  refine Sound.of_forall₂ rfl (.cons (.str _ _) (.cons hamps (.cons hterms (.cons hroadms
    (.cons hlinks (.cons ?_ .nil))))))
  -- the control section is written when given, and absent otherwise
  cases hc : d.control with
  | none => exact .none _
  | some c =>
    refine .some (Control.sound_toValue (fun i hic => hd.ints i ?_) (fun x hxc => hf x ?_))
    · simp only [Description.ints, List.mem_append, hc, Option.map_some, Option.getD_some]
      exact .inr hic
    · simp only [Description.floats, List.mem_append, hc, Option.map_some, Option.getD_some]
      exact .inr hxc

end Written

end WdmNet
