import LogOrigin.Proofs.CheckedConfig
import LogOrigin.Proofs.JsonTokens
import LogOrigin.Proofs.RecordMembers

/-!
# Numbers of frames to skip in a file

What it makes of a configuration file that a number of frames to skip is written in the section of
a framework (`RawConfig.Writes`). A number from zero on changes the policy of the framework alone,
and one beyond the limit falls back to the default with one warning. A negative number is none that
can be read, so the whole file is of no use (`Config.load_skipFrames`).
-/

namespace LogOrigin

open Decode (Origin Record field_apart nullable size)

namespace FrameworkSection

variable {depth : Nat} {origin : Origin}

/-- The number of frames to skip is a field of its own. -/
theorem alone_skipFrames (depth : Nat) (origin : Origin) :
    (record depth).Alone origin "skip_frames" (·.skipFrames)
      (fun d v => { d with skipFrames := v }) (nullable size) where
  found := ⟨true, rfl⟩
  get_set _ _ := rfl
  set_set _ _ _ := rfl
  others := by
    simp only [record, List.forall_mem_cons]
    exact ⟨fun hne => absurd rfl hne,
      fun _ => field_apart origin (fun _ _ => rfl) (fun _ _ _ => rfl) (fun _ _ => rfl), by simp⟩

/-- The number of frames to skip can be added to a section without one, and changes nothing else. -/
theorem decode_insert {front back : List (String × Json.Value)} {s : FrameworkSection}
    (habsent : ∀ m ∈ front ++ back, m.1 ≠ "skip_frames")
    (h : decode (depth + 1) origin (.ofValue (.object (front ++ back))) = .ok s) (v : Json.Value) :
    s.skipFrames = none ∧
      decode (depth + 1) origin (.ofValue (.object (front ++ ("skip_frames", v) :: back))) =
        (fun n? => { s with skipFrames := n? }) <$> nullable size origin (.ofValue v) := by
  have halone := alone_skipFrames depth origin
  have hkeys := Record.ne_of_mem_members habsent
  rw [decode, Decode.record, Record.decode_object] at h ⊢
  obtain ⟨draft, htake, hfinish⟩ := exists_of_bind h
  obtain rfl := Except.ok.inj hfinish
  have hnone : draft.skipFrames = none := halone.get_of_take hkeys htake
  refine ⟨congrArg Option.join hnone, ?_⟩
  rw [List.map_append] at htake hkeys
  rw [List.map_append, List.map_cons, halone.take_insert rfl hkeys htake]
  cases nullable size origin (.ofValue v) <;> rfl

end FrameworkSection

namespace RawConfig

/-- The configuration with another section for a framework. -/
def withSection (raw : RawConfig) (f : Framework) (s : FrameworkSection) : RawConfig :=
  { raw with frameworks := raw.frameworks.set f s }

/-- A document and the same one with a number of frames to skip written for a framework, in the
section that it has or in one that there is for this number alone. -/
inductive Writes (f : Framework) (v : Int) : Json.Value → Json.Value → Prop
  | inside {before after front back : List (String × Json.Value)}
      (habsent : ∀ m ∈ front ++ back, m.1 ≠ "skip_frames") :
      Writes f v (.object (before ++ (f.key, .object (front ++ back)) :: after))
        (.object (before ++
          (f.key, .object (front ++ ("skip_frames", .number (.integer v)) :: back)) :: after))
  | apart {before after : List (String × Json.Value)}
      (habsent : ∀ m ∈ before ++ after, m.1 ≠ f.key) :
      Writes f v (.object (before ++ after))
        (.object (before ++
          (f.key, .object [("skip_frames", .number (.integer v))]) :: after))

/-- The section of a framework is a field of its own. -/
theorem alone_framework (depth : Nat) (origin : Origin) (f : Framework) :
    (record depth).Alone origin f.key (·.frameworks.get f)
      (fun d v => { d with frameworks := d.frameworks.set f v })
      (FrameworkSection.decode depth) where
  found := ⟨true, by cases f <;> rfl⟩
  get_set _ _ := PerFramework.get_set_self ..
  set_set d b c := by rw [PerFramework.set_set]
  others := by
    have hother (g : Framework) (hkey : (frameworkField depth g).name ≠ f.key) :
        (frameworkField depth g).Apart origin (fun d : Draft => d.frameworks.get f)
          (fun d v => { d with frameworks := d.frameworks.set f v }) := by
      have hne : g ≠ f := fun heq => hkey (heq ▸ rfl)
      refine field_apart origin (fun d b => PerFramework.get_set_of_ne _ b hne) (fun d b c => ?_)
        (fun d c => PerFramework.get_set_of_ne _ c hne.symm)
      exact congrArg (fun frameworks => { d with frameworks }) (PerFramework.set_comm _ b c hne)
    simp only [record, Framework.all, List.map_cons, List.map_nil, List.cons_append,
      List.nil_append, List.forall_mem_cons]
    exact ⟨fun _ => field_apart origin (fun _ _ => rfl) (fun _ _ _ => rfl) (fun _ _ => rfl),
      hother .log4j, hother .log4j2, hother .logback,
      fun _ => field_apart origin (fun _ _ => rfl) (fun _ _ _ => rfl) (fun _ _ => rfl), by simp⟩

section Sections

variable {depth : Nat} {origin : Origin} {f : Framework} {raw : RawConfig}
  {before after : List (String × Json.Value)}

/-- The draft with another section for a framework makes the configuration with that section. -/
theorem finish_set (depth : Nat) {draft : Draft} (h : (record depth).finish draft = .ok raw)
    (s : FrameworkSection) :
    (record depth).finish { draft with frameworks := draft.frameworks.set f (some s) } =
      .ok (raw.withSection f s) := by
  obtain rfl := Except.ok.inj h
  cases f <;> rfl

/-- A section of a framework that goes through is in the configuration, and another one in its place
changes nothing else. -/
theorem decode_replace {v : Json.Value}
    (h : decode (depth + 2) origin (.ofValue (.object (before ++ (f.key, v) :: after))) =
      .ok raw) :
    FrameworkSection.decode (depth + 1) origin (.ofValue v) = .ok (raw.frameworks.get f) ∧
      ∀ v', decode (depth + 2) origin (.ofValue (.object (before ++ (f.key, v') :: after))) =
        raw.withSection f <$> FrameworkSection.decode (depth + 1) origin (.ofValue v') := by
  have halone := alone_framework (depth + 1) origin f
  rw [decode, Decode.record, Record.decode_object, List.map_append, List.map_cons] at h
  obtain ⟨draft, htake, hfinish⟩ := exists_of_bind h
  obtain ⟨-, s, -, -, hsection, -, -, hget⟩ := halone.exists_of_take_field htake
  have hs : raw.frameworks.get f = s := by
    obtain rfl := Except.ok.inj hfinish
    rw [PerFramework.get_make, hget]
    rfl
  refine ⟨hs ▸ hsection, fun v' => ?_⟩
  rw [decode, Decode.record, Record.decode_object, List.map_append, List.map_cons,
    halone.take_replace htake]
  cases FrameworkSection.decode (depth + 1) origin (.ofValue v') with
  | error fault => rfl
  | ok s' => exact finish_set _ hfinish s'

/-- A section can be added for a framework without one, and changes nothing else. -/
theorem decode_insert (habsent : ∀ m ∈ before ++ after, m.1 ≠ f.key)
    (h : decode (depth + 2) origin (.ofValue (.object (before ++ after))) = .ok raw) :
    raw.frameworks.get f = {} ∧
      ∀ v, decode (depth + 2) origin (.ofValue (.object (before ++ (f.key, v) :: after))) =
        raw.withSection f <$> FrameworkSection.decode (depth + 1) origin (.ofValue v) := by
  have halone := alone_framework (depth + 1) origin f
  have hblank : (record (depth + 1)).blank.frameworks.get f = none := by cases f <;> rfl
  have hkeys := Record.ne_of_mem_members habsent
  rw [decode, Decode.record, Record.decode_object] at h
  obtain ⟨draft, htake, hfinish⟩ := exists_of_bind h
  have hget := (halone.get_of_take hkeys htake).trans hblank
  rw [List.map_append] at htake hkeys
  refine ⟨?_, fun v => ?_⟩
  · obtain rfl := Except.ok.inj hfinish
    rw [PerFramework.get_make, hget]
    rfl
  · rw [decode, Decode.record, Record.decode_object, List.map_append, List.map_cons,
      halone.take_insert hblank hkeys htake]
    cases FrameworkSection.decode (depth + 1) origin (.ofValue v) with
    | error fault => rfl
    | ok s => exact finish_set _ hfinish s

/-- A number of frames to skip that is written reaches the section of its framework if it is a
size, and changes nothing else. -/
theorem decode_of_writes {v : Int} {bare full : Json.Value} (h : Writes f v bare full)
    (hbare : decode (depth + 2) origin (.ofValue bare) = .ok raw) :
    (raw.frameworks.get f).skipFrames = none ∧
      decode (depth + 2) origin (.ofValue full) =
        (fun n => raw.withSection f { raw.frameworks.get f with skipFrames := some n }) <$>
          size origin (.number (.ok (.integer v))) := by
  obtain ⟨s, hs, hnone, hfull⟩ : ∃ s, raw.frameworks.get f = s ∧ s.skipFrames = none ∧
      decode (depth + 2) origin (.ofValue full) = raw.withSection f <$>
        (fun n? => { s with skipFrames := n? }) <$>
          nullable size origin (.ofValue (.number (.integer v))) := by
    cases h with
    | inside habsent =>
      obtain ⟨hsection, hreplace⟩ := decode_replace hbare
      obtain ⟨hnone, hinsert⟩ := FrameworkSection.decode_insert habsent hsection _
      exact ⟨_, rfl, hnone, (hreplace _).trans (congrArg _ hinsert)⟩
    | apart habsent =>
      obtain ⟨hs, hinsert⟩ := decode_insert habsent hbare
      have hempty : FrameworkSection.decode (depth + 1) origin (.ofValue (.object ([] ++ []))) =
          .ok {} := rfl
      obtain ⟨hnone, hsection⟩ := FrameworkSection.decode_insert (by simp) hempty _
      exact ⟨_, hs, hnone, (hinsert _).trans (congrArg _ hsection)⟩
  refine ⟨hs ▸ hnone, ?_⟩
  rw [hfull, hs]
  simp only [nullable, Json.Node.ofValue]
  cases size origin (.number (.ok (.integer v))) <;> rfl

end Sections

end RawConfig

namespace Config

/-! ## What the number changes -/

section Values

variable {raw : RawConfig} {f : Framework} (n : Nat)

/-- The number of frames to skip for a framework changes its policy alone. -/
theorem ofRaw_withSection :
    ofRaw (raw.withSection f { raw.frameworks.get f with skipFrames := some n }) =
      { ofRaw raw with
        policies := (ofRaw raw).policies.set f
          { (ofRaw raw).policies.get f with
            skipFrames := if n ≤ 64 then n else (default.policies.get f).skipFrames } } := by
  have hskip := skipFrames_some n f.defaultPolicy.skipFrames
  have hpolicy : policy f { raw.frameworks.get f with skipFrames := some n }
      (exceptionMode raw.attribution) =
      { (ofRaw raw).policies.get f with
        skipFrames := if n ≤ 64 then n else (default.policies.get f).skipFrames } := by
    rw [ofRaw, PerFramework.get_make, policy_default, policy, hskip]
    rfl
  rw [← hpolicy]
  cases f <;> rfl

/-- A number of frames to skip that is too great has one warning. -/
theorem warnings_withSection (hnone : (raw.frameworks.get f).skipFrames = none) :
    ∃ before after, warnings raw = before ++ after ∧
      warnings (raw.withSection f { raw.frameworks.get f with skipFrames := some n }) =
        before ++ refusal (· ≤ 64) (fun n => .outOfRange (f.key ++ ".skip_frames") (toString n)
          "0-64" (toString (default.policies.get f).skipFrames)) (some n) ++ after := by
  obtain ⟨fs, gs, hall, hfs, hgs⟩ :
      ∃ fs gs, [Framework.log4j, .log4j2, .logback] = fs ++ f :: gs ∧ f ∉ fs ∧ f ∉ gs := by
    cases f with
    | log4j => exact ⟨[], [.log4j2, .logback], rfl, by decide, by decide⟩
    | log4j2 => exact ⟨[.log4j], [.logback], rfl, by decide, by decide⟩
    | logback => exact ⟨[.log4j, .log4j2], [], rfl, by decide, by decide⟩
  have hothers (hs : List Framework) (hf : f ∉ hs) (s : FrameworkSection) :
      hs.flatMap (fun g => sectionRefusals g ((raw.withSection f s).frameworks.get g)) =
        hs.flatMap fun g => sectionRefusals g (raw.frameworks.get g) := by
    rw [List.flatMap_def, List.flatMap_def]
    refine congrArg _ (List.map_congr_left fun g hg => ?_)
    have hne : g ≠ f := fun heq => hf (heq ▸ hg)
    rw [RawConfig.withSection, PerFramework.get_set_of_ne _ _ hne]
  have hwritten (s : FrameworkSection) : (raw.withSection f s).frameworks.get f = s :=
    PerFramework.get_set_self ..
  simp only [warnings_eq, refusals, hall, List.flatMap_append, List.flatMap_cons, hothers fs hfs,
    hothers gs hgs, hwritten]
  simp only [sectionRefusals, hnone, refusal, List.nil_append, List.append_assoc]
  -- the sections of the frameworks before this one go with the mode, in front of the number
  simp only [← List.append_assoc _ (List.flatMap _ fs)]
  exact ⟨_, _, rfl, rfl⟩

end Values

/-! ## Loading -/

/-- The document that the content of a file makes, before any section is decoded. -/
def document? (bytes : List UInt8) : Option Json.Value :=
  (textOf? bytes).bind Toml.read?

theorem document?_bytesOf (s : String) : document? (bytesOf s) = Toml.read? s := by
  rw [document?, textOf?_bytesOf, Option.bind_some]

theorem read_of_document {bytes : List UInt8} {v : Json.Value} (path : String)
    (h : document? bytes = some v) :
    read path (.ok bytes) =
      ((RawConfig.decode Json.maxDepth .table (.ofValue v)).mapError .mistyped).mapError
        (.unparseable path) := by
  obtain ⟨s, hs, hread⟩ := Option.bind_eq_some_iff.mp h
  simp only [read, hs, Toml.decode, hread]

/-- A file that is there loads alike whether it was asked for or not, unless it is of no use. -/
theorem loadLenient_of_ok {path : String} {bytes : List UInt8}
    {loaded : Config × List ConfigWarning} (h : loadStrict path (.ok bytes) = .ok loaded) :
    loadLenient path (.ok bytes) = loaded := by
  rw [loadLenient, seemsThere, if_pos rfl, h]

section Sizes

variable {v : Int}

theorem size_of_nonneg (hnonneg : 0 ≤ v) (hv : v ≤ 9223372036854775807) (origin : Origin) :
    size origin (.number (.ok (.integer v))) = .ok v.toNat := by
  have hpow : Int.pow 2 64 = 18446744073709551616 := by decide
  rw [size, Decode.integer, if_pos (by rw [hpow]; simp; omega)]
  rfl

theorem size_of_neg (hneg : v < 0) (origin : Origin) :
    size origin (.number (.ok (.integer v))) = .error (.wrongValue (.integer v) .size) := by
  rw [size, Decode.integer, if_neg (by simp; omega)]
  rfl

end Sizes

/-- A number of frames to skip that is written for a framework in a file that loads without it. From
zero on the file still loads, also where it need not be there, and the policy of the framework skips
that many frames if they are within the limit; a greater number leaves the default with one warning
more. A negative number is not read as one at all: the file does not load where it was asked for,
and where it was not, nothing that it says is used. -/
theorem load_skipFrames (path : String) {f : Framework} {v : Int} {bare full : List UInt8}
    {tree tree' : Json.Value} {config : Config} {warned : List ConfigWarning}
    (hv : -9223372036854775808 ≤ v ∧ v ≤ 9223372036854775807)
    (hbare : document? bare = some tree) (hfull : document? full = some tree')
    (hwrites : RawConfig.Writes f v tree tree')
    (hload : loadStrict path (.ok bare) = .ok (config, warned)) :
    (0 ≤ v → ∃ config' warned',
      loadStrict path (.ok full) = .ok (config', warned') ∧
      loadLenient path (.ok full) = (config', warned') ∧
      config' = { config with
        policies := config.policies.set f { config.policies.get f with
          skipFrames := if v ≤ 64 then v.toNat else (default.policies.get f).skipFrames } } ∧
      (v ≤ 64 → warned' = warned) ∧
      (64 < v → ∃ before after, warned = before ++ after ∧
        warned' = before ++ .outOfRange (f.key ++ ".skip_frames") (toString v) "0-64"
          (toString (default.policies.get f).skipFrames) :: after)) ∧
    (v < 0 → ∃ cause,
      cause = ConfigError.unparseable path (.mistyped (.wrongValue (.integer v) .size)) ∧
      loadStrict path (.ok full) = .error cause ∧
      loadLenient path (.ok full) = (default, [.unusable cause])) := by
  have hdepth : Json.maxDepth = 125 + 2 := rfl
  rw [loadStrict, read_of_document path hbare, hdepth] at hload
  cases hdecode : RawConfig.decode (125 + 2) .table (.ofValue tree) with
  | error fault =>
    rw [hdecode] at hload
    cases hload
  | ok raw =>
    rw [hdecode] at hload
    obtain ⟨rfl, rfl⟩ := Prod.mk.inj (Except.ok.inj hload)
    obtain ⟨hnone, hwritten⟩ := RawConfig.decode_of_writes hwrites hdecode
    refine ⟨fun hnonneg => ?_, fun hneg => ?_⟩
    · rw [size_of_nonneg hnonneg hv.2] at hwritten
      have hstrict : loadStrict path (.ok full) = .ok
          (ofRaw (raw.withSection f { raw.frameworks.get f with skipFrames := some v.toNat }),
            warnings (raw.withSection f
              { raw.frameworks.get f with skipFrames := some v.toNat })) := by
        rw [loadStrict, read_of_document path hfull, hdepth, hwritten]
        rfl
      obtain ⟨before, after, hwarned, hwarned'⟩ := warnings_withSection v.toNat hnone
      have hlimit : v.toNat ≤ 64 ↔ v ≤ 64 := by omega
      refine ⟨_, _, hstrict, loadLenient_of_ok hstrict, ?_, fun hle => ?_, fun hgt => ?_⟩
      · rw [ofRaw_withSection]
        simp only [hlimit]
      · rw [hwarned', hwarned, refusal, if_pos (hlimit.mpr hle), List.append_nil]
      · have hshown : toString v.toNat = toString v := by
          conv_rhs => rw [← Int.toNat_of_nonneg hnonneg]
          rfl
        refine ⟨before, after, hwarned, ?_⟩
        rw [hwarned', refusal, if_neg (by omega), hshown, List.append_assoc]
        rfl
    · rw [size_of_neg hneg] at hwritten
      have hstrict : loadStrict path (.ok full) = .error
          (.unparseable path (.mistyped (.wrongValue (.integer v) .size))) := by
        rw [loadStrict, read_of_document path hfull, hdepth, hwritten]
        rfl
      refine ⟨_, rfl, hstrict, ?_⟩
      rw [loadLenient, seemsThere, if_pos rfl, hstrict]

/-- A file that skips one frame too many for a framework loads with the default and says so. -/
theorem load_skipFrames_beyond :
    loadStrict "config.toml" (.ok (bytesOf "[log4j]\nskip_frames = 65\n")) =
      .ok (default, [.outOfRange "log4j.skip_frames" "65" "0-64" "0"]) := by
  have hbare : document? (bytesOf "[log4j]\n") = some (.object [("log4j", .object [])]) := by
    have hchars : "[log4j]\n".toList = ['[', 'l', 'o', 'g', '4', 'j', ']', '\n'] := rfl
    rw [document?_bytesOf, Toml.read?, hchars]
    rfl
  have hfull : document? (bytesOf "[log4j]\nskip_frames = 65\n") =
      some (.object [("log4j", .object [("skip_frames", .number (.integer 65))])]) := by
    have hchars : "[log4j]\nskip_frames = 65\n".toList = ['[', 'l', 'o', 'g', '4', 'j', ']', '\n',
      's', 'k', 'i', 'p', '_', 'f', 'r', 'a', 'm', 'e', 's', ' ', '=', ' ', '6', '5', '\n'] := rfl
    rw [document?_bytesOf, Toml.read?, hchars]
    rfl
  have hwrites : RawConfig.Writes .log4j 65 (.object [("log4j", .object [])])
      (.object [("log4j", .object [("skip_frames", .number (.integer 65))])]) :=
    @RawConfig.Writes.inside .log4j 65 [] [] [] [] (by simp)
  have hload : loadStrict "config.toml" (.ok (bytesOf "[log4j]\n")) = .ok (default, []) := by
    decide +kernel
  obtain ⟨config', warned', hstrict, -, hconfig, -, hwarned⟩ :=
    (load_skipFrames "config.toml" (by decide) hbare hfull hwrites hload).1 (by decide)
  obtain ⟨before, after, hnone, hone⟩ := hwarned (by decide)
  obtain ⟨rfl, rfl⟩ := List.append_eq_nil_iff.mp hnone.symm
  have hdefault : config' = default := by
    rw [hconfig]
    decide +kernel
  rw [hstrict, hdefault, hone]
  rfl

/-- A negative number of frames to skip stops a program that asked for the file, which loads without
that number, and takes the level of diagnostics with it where the file need not be there. -/
theorem load_negative_skipFrames :
    let bare := bytesOf "[log4j]\n\n[logging]\nlevel = \"debug\"\n"
    let full := bytesOf "[log4j]\nskip_frames = -1\n\n[logging]\nlevel = \"debug\"\n"
    let cause := ConfigError.unparseable "config.toml"
      (.mistyped (.wrongValue (.integer (-1)) .size))
    loadStrict "config.toml" (.ok bare) = .ok ({ default with logLevel := some "debug" }, []) ∧
      loadStrict "config.toml" (.ok full) = .error cause ∧
      loadLenient "config.toml" (.ok full) = (default, [.unusable cause]) := by
  refine ⟨?_, ?_, ?_⟩ <;> decide +kernel

end Config

end LogOrigin
