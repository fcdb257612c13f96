import LogOrigin.Proofs.CauseAttribution

/-!
# Throwables of errors

The throwable of an error has one link for the error and one for each error that it comes from, in
order and with their messages (`Throwable.ofErrors_chain`). Only the outermost link has frames, so
attribution does not depend on how the policy treats causes.
-/

namespace LogOrigin

namespace Attribution

/-- Where no cause has frames, attribution is to the throwable's own innermost frame, under any
policy. -/
theorem ofThrowable_of_bare_causes (policy : SkipPolicy) {t : Throwable}
    (h : ∀ c ∈ t.chain.tail, c.frames = []) : ofThrowable policy t = .ofFrame? t.firstFrame := by
  have hcauses :
      (t.chain.tail.take (Limits.causeDepth - 1)).filterMap Throwable.firstFrame = [] := by
    rw [List.filterMap_eq_nil_iff]
    intro c hc
    rw [Throwable.firstFrame, h c (List.mem_of_mem_take hc), List.head?_nil]
  unfold ofThrowable
  cases policy.exceptionMode with
  | outer => rfl
  | skipExcluded =>
    simp only [candidates_eq, hcauses, List.append_nil]
    -- either the own frame is found, or it is what is fallen back on
    cases t.firstFrame with
    | none => rfl
    | some frame =>
      rw [Option.toList_some, List.find?_singleton]
      split <;> rfl

end Attribution

namespace Throwable

/-! ## The name in front -/

/-- Characters of names. -/
def isNameChar (c : Char) : Bool := Text.isAlphanumeric c || c == '_'

/-- The leading name is the longest run of name characters at the front, unless there is none. -/
theorem exists_leadingName (shown : String) :
    ∃ name rest, shown.toList = name ++ rest ∧ (∀ c ∈ name, isNameChar c = true) ∧
      (∀ c ∈ rest.head?, isNameChar c = false) ∧
      leadingName shown = if name = [] then "Error" else String.ofList name := by
  refine ⟨shown.toList.takeWhile isNameChar, shown.toList.dropWhile isNameChar,
    List.takeWhile_append_dropWhile.symm, fun c hc => List.mem_takeWhile_imp hc, ?_, ?_⟩
  · intro c hc
    have hstops := List.head?_dropWhile_not isNameChar shown.toList
    rw [Option.mem_def.mp hc] at hstops
    simpa using hstops
  · have hname : leadingName shown =
        if (shown.toList.takeWhile isNameChar).isEmpty then "Error"
        else String.ofList (shown.toList.takeWhile isNameChar) := rfl
    simp only [hname, List.isEmpty_iff]

/-! ## The chain -/

/-- The chain of links is these links. -/
theorem links_of_ofLinks? {links : List Link} {t : Throwable} (h : ofLinks? links = some t) :
    t.chain.map link = links := by
  induction links generalizing t with
  | nil => cases h
  | cons l rest ih =>
    cases h
    cases hrest : ofLinks? rest with
    | none =>
      cases rest with
      | nil => rfl
      | cons l' rest => cases hrest
    | some c =>
      rw [chain, List.map_cons, ih hrest]
      rfl

theorem links_ofErrors (shown outermost : String) (sources : List String)
    (frames : List StackFrame) :
    (ofErrors shown outermost sources frames).chain.map link =
      ⟨leadingName shown, some outermost, frames⟩ ::
        sources.map fun m => ⟨"source", some m, []⟩ := by
  have hthrowable : ofLinks? (⟨leadingName shown, some outermost, frames⟩ ::
      sources.map fun m => ⟨"source", some m, []⟩) =
        some (ofErrors shown outermost sources frames) := rfl
  exact links_of_ofLinks? hthrowable

/-- The throwable of an error, given as the text that shows it, its message and the messages of the
errors that it comes from, has a link for each of them, in order and with its message. The outermost
link has the frames, and its type is the name in front of the text that shows the error; the others
have none, and no type of their own. It is attributed to the first of the frames, whatever the
policy. -/
theorem ofErrors_chain (shown outermost : String) (sources : List String)
    (frames : List StackFrame) :
    let t := ofErrors shown outermost sources frames
    t.chain.length = sources.length + 1 ∧
    t.chain.map message = (outermost :: sources).map some ∧
    t.chain.head? = some t ∧
    t.frames = frames ∧
    (∃ name rest, shown.toList = name ++ rest ∧ (∀ c ∈ name, isNameChar c = true) ∧
      (∀ c ∈ rest.head?, isNameChar c = false) ∧
      t.typeName = if name = [] then "Error" else String.ofList name) ∧
    (∀ c ∈ t.chain.tail, c.typeName = "source" ∧ c.frames = []) ∧
    ∀ policy, Attribution.ofThrowable policy t =
      match frames with
      | [] => .unknown
      | frame :: _ => .ofFrame frame := by
  intro t
  have hlinks := links_ofErrors shown outermost sources frames
  have hcauses : ∀ c ∈ t.chain.tail, c.typeName = "source" ∧ c.frames = [] := by
    intro c hc
    have htail := congrArg List.tail hlinks
    rw [← List.map_tail, List.tail_cons] at htail
    have hlink : link c ∈ sources.map fun m => (⟨"source", some m, []⟩ : Link) :=
      htail ▸ List.mem_map_of_mem hc
    obtain ⟨m, -, hm⟩ := List.mem_map.mp hlink
    exact ⟨(congrArg Link.typeName hm).symm, (congrArg Link.frames hm).symm⟩
  refine ⟨?_, ?_, ?_, rfl, exists_leadingName shown, hcauses, ?_⟩
  · have hlength := congrArg List.length hlinks
    rwa [List.length_map, List.length_cons, List.length_map] at hlength
  · have hmessages := congrArg (List.map Link.message) hlinks
    rw [List.map_map, List.map_cons, List.map_map] at hmessages
    exact hmessages
  · rw [chain_eq]
    rfl
  · intro policy
    rw [Attribution.ofThrowable_of_bare_causes policy fun c hc => (hcauses c hc).2]
    cases frames <;> rfl

end Throwable

end LogOrigin
