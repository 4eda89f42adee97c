import FrameCode.Proofs.StackDiscipline

/-!
# Input is read line by line

Every read takes one line of the input, the first read the first line and so on, and nothing else
takes any of it.  This holds over all runs of a program, also when they go on after failures: a line
that is not text is taken, while a read whose variable cannot be assigned takes nothing.

- `Line.all`: the lines of an input
- `Line.Shows`: the text that a line shows without its ending
- `Instruction.request?`: what an instruction asks of the input
- `Machine.Answers`: how a line answers a request
- `Machine.reads`: the requests of a log with their outcomes
- `Machine.Log.lines`, `Machine.Log.answers`: the lines that are left, and those that were taken
- `Machine.reads_take_lines`: after any number of reads their lines are gone, each taken once
-/

namespace FrameCode

/-! ## Lines -/

namespace Line

/-- The lines of an input, each of them with the line feed that ends it. -/
def all : List UInt8 → List (List UInt8)
  | [] => []
  | b :: rest =>
    if b = lineFeed then
      [b] :: all rest
    else
      match all rest with
      | [] => [[b]]
      | line :: later => (b :: line) :: later

/-- The lines make up the input. -/
theorem flatten_all (input : List UInt8) : (all input).flatten = input := by
  induction input with
  | nil => rfl
  | cons b rest ih =>
    simp only [all]
    split
    next => rw [List.flatten_cons, ih, List.singleton_append]
    next =>
      split
      next hnone =>
        have hrest : rest = [] := by simpa [hnone] using ih.symm
        rw [hrest]
        rfl
      next line later hsome =>
        rw [hsome, List.flatten_cons] at ih
        rw [List.flatten_cons, List.cons_append, ih]

/-- Bytes without a line feed belong to the line of what follows. -/
theorem all_append_feed {before : List UInt8} (h : lineFeed ∉ before) (rest : List UInt8) :
    all (before ++ lineFeed :: rest) = (before ++ [lineFeed]) :: all rest := by
  induction before with
  | nil => simp [all]
  | cons b before ih =>
    have hb : b ≠ lineFeed := fun heq => h (heq ▸ List.mem_cons_self)
    have hbefore : lineFeed ∉ before := fun hmem => h (List.mem_cons_of_mem _ hmem)
    rw [List.cons_append, all, if_neg hb, ih hbefore]
    rfl

theorem all_of_not_mem {input : List UInt8} (h : lineFeed ∉ input) (hinput : input ≠ []) :
    all input = [input] := by
  induction input with
  | nil => exact absurd rfl hinput
  | cons b rest ih =>
    have hb : b ≠ lineFeed := fun heq => h (heq ▸ List.mem_cons_self)
    have hrest : lineFeed ∉ rest := fun hmem => h (List.mem_cons_of_mem _ hmem)
    rw [all, if_neg hb]
    cases rest with
    | nil => rfl
    | cons b' rest => rw [ih hrest (by simp)]

/-- What is taken as the next line is the first one, and the others are left. -/
theorem next_eq_all (input : List UInt8) :
    (next input).1 = (all input).head?.getD [] ∧ all (next input).2 = (all input).tail := by
  rcases next_cases input with ⟨hfree, hnext⟩ | ⟨before, rest, hfree, rfl, hnext⟩
  · rw [hnext]
    cases input with
    | nil => exact ⟨rfl, rfl⟩
    | cons b input =>
      rw [all_of_not_mem hfree (by simp)]
      exact ⟨rfl, rfl⟩
  · rw [hnext, all_append_feed hfree]
    exact ⟨rfl, rfl⟩

theorem ne_nil_of_mem_all {input line : List UInt8} (h : line ∈ all input) : line ≠ [] := by
  induction input generalizing line with
  | nil => cases h
  | cons b rest ih =>
    simp only [all] at h
    split at h
    next =>
      rcases List.mem_cons.1 h with rfl | hlater
      · simp
      · exact ih hlater
    next =>
      split at h
      next =>
        rw [List.mem_singleton.1 h]
        simp
      next first later hsome =>
        rcases List.mem_cons.1 h with rfl | hlater
        · simp
        · exact ih (hsome ▸ List.mem_cons_of_mem _ hlater)

/-! ## The text of a line -/

/-- A line without its ending, which is a line feed or a carriage return with a line feed. -/
inductive Stripped : List UInt8 → List UInt8 → Prop
  | returnFeed (body : List UInt8) : Stripped (body ++ [carriageReturn, lineFeed]) body
  | feed (body : List UInt8) (h : body.getLast? ≠ some carriageReturn) :
      Stripped (body ++ [lineFeed]) body
  | unended (line : List UInt8) (h : line.getLast? ≠ some lineFeed) : Stripped line line

theorem stripped_content (line : List UInt8) : Stripped line (content line) := by
  rcases List.eq_nil_or_concat line with rfl | ⟨before, last, rfl⟩
  · exact .unended [] (by simp)
  · rw [List.concat_eq_append]
    unfold content
    simp only [List.reverse_append, List.reverse_singleton, List.singleton_append]
    split
    next hfeed =>
      subst hfeed
      rcases List.eq_nil_or_concat before with rfl | ⟨start, previous, rfl⟩
      · exact .feed [] (by simp)
      · simp only [List.concat_eq_append, List.reverse_append, List.reverse_singleton,
          List.singleton_append]
        split
        next hreturn =>
          subst hreturn
          rw [List.reverse_reverse, List.append_assoc]
          exact .returnFeed start
        next hreturn =>
          have hbody : (previous :: start.reverse).reverse = start ++ [previous] := by simp
          rw [hbody]
          exact .feed _ (by simpa using hreturn)
    next hfeed => exact .unended _ (by simpa using hfeed)

/-- The text that a line shows, if its bytes are text; at the end of the input there is none. -/
inductive Shows : Option (List UInt8) → Option String → Prop
  | ended : Shows none none
  | line (line body : List UInt8) (text : String) (hbody : Stripped line body)
      (htext : text.toUTF8 = ⟨body.toArray⟩) : Shows (some line) (some text)

/-- The next line is decoded to the text that it shows. -/
theorem shows_of_decode_next {input : List UInt8} {text : Option String}
    (h : decode (next input).1 = .ok text) : Shows (all input).head? text := by
  rw [(next_eq_all input).1] at h
  cases hhead : (all input).head? with
  | none =>
    rw [hhead] at h
    cases h
    exact .ended
  | some line =>
    rw [hhead, Option.getD_some] at h
    have hline : line ≠ [] := ne_nil_of_mem_all (List.mem_of_head? hhead)
    unfold decode at h
    rw [if_neg (by simpa using hline)] at h
    split at h
    next => cases h
    next shown hshown =>
      cases h
      refine .line line (content line) shown (stripped_content line) ?_
      unfold String.fromUTF8? at hshown
      split at hshown
      next hvalid =>
        cases hshown
        rfl
      next => cases hshown

/-- A next line that cannot be decoded is there, and it is not text. -/
theorem not_isText_of_decode_next {input : List UInt8} {failure : ChannelFailure}
    (h : decode (next input).1 = .error failure) :
    ∃ line, (all input).head? = some line ∧ ¬ IsText line := by
  have hnotText : ¬ IsText (next input).1 := by
    rw [← exists_decode_iff, h]
    simp
  rw [(next_eq_all input).1] at hnotText
  cases hhead : (all input).head? with
  | none =>
    rw [hhead] at hnotText
    exact absurd isText_nil hnotText
  | some line =>
    rw [hhead] at hnotText
    exact ⟨line, rfl, hnotText⟩

end Line

/-! ## Requests for input -/

namespace Instruction

/-- The variable and the type of a read whose operands are such and whose variable can be
assigned. -/
def request? (i : Instruction) (frames : Frames) : Option (Variable × TypeTag) :=
  match i.opcode, i.operands with
  | .read, .var v :: .literal (.type tag) :: _ =>
    if (frames.frame? v.scope).any (·.contains v.name) then some (v, tag) else none
  | _, _ => none

variable {i : Instruction} {labels : LabelTable} {m : Machine} {frames : Frames} {v : Variable}
  {tag : TypeTag}

theorem request?_eq_some_iff :
    i.request? frames = some (v, tag) ↔
      i.opcode = .read ∧ i.operands[0]? = some (.var v) ∧
        i.operands[1]? = some (.literal (.type tag)) ∧ frames.Declares v := by
  have hdeclares : ∀ v : Variable,
      (frames.frame? v.scope).any (·.contains v.name) = true ↔ frames.Declares v := by
    intro v
    rw [Frames.declares_iff, Option.any_eq_true]
  unfold request?
  constructor
  · intro h
    split at h
    next hop hoperands =>
      split at h
      next hany =>
        cases h
        exact ⟨hop, by rw [hoperands]; rfl, by rw [hoperands]; rfl, (hdeclares v).1 hany⟩
      next => cases h
    next => cases h
  · intro h
    rcases h with ⟨hop, hv, htag, hdeclared⟩
    rcases hoperands : i.operands with _ | ⟨first, _ | ⟨second, rest⟩⟩
    · simp [hoperands] at hv
    · simp [hoperands] at htag
    · simp only [hoperands, List.getElem?_cons_zero, List.getElem?_cons_succ,
        Option.some.injEq] at hv htag
      subst hv htag
      simp only [hop]
      exact if_pos ((hdeclares v).2 hdeclared)

end Instruction

namespace Machine

variable {m : Machine} {v : Variable} {tag : TypeTag}

theorem readLine_of_not_declares (h : ¬ m.frames.Declares v) :
    ∃ fault, m.readLine v tag = .failed fault m := by
  unfold readLine
  cases hcheck : m.frames.checkAssignable v with
  | error fault => exact ⟨fault, rfl⟩
  | ok _ => exact absurd (Frames.checkAssignable_eq_ok_iff.1 hcheck) h

/-- How a read ends that takes a line, or finds none: its variable receives what the line shows, or
the line is not text. -/
inductive Answers (line : Option (List UInt8)) (v : Variable) (tag : TypeTag) : Outcome → Prop
  | value (text : Option String) (after : Machine) (hshows : Line.Shows line text)
      (hholds : after.frames.Holds v (some (Value.ofLine tag text))) :
      Answers line v tag (.done after)
  | notText (bytes : List UInt8) (after : Machine) (hline : line = some bytes)
      (hbytes : ¬ Line.IsText bytes) : Answers line v tag (.failed (.channel .notText) after)

/-- A read whose variable is declared takes the next line, whatever it is. -/
theorem readLine_of_declares (h : m.frames.Declares v) :
    (m.readLine v tag).machine.input = (Line.next m.input).2 ∧
      Answers (Line.all m.input).head? v tag (m.readLine v tag) := by
  have hcheck : m.frames.checkAssignable v = .ok () := Frames.checkAssignable_eq_ok_iff.2 h
  unfold readLine
  rw [hcheck]
  dsimp only
  cases hdecode : Line.decode (Line.next m.input).1 with
  | error failure =>
    have hfailure : failure = .notText := Line.decode_eq_error hdecode
    rcases Line.not_isText_of_decode_next hdecode with ⟨line, hline, hbytes⟩
    subst hfailure
    exact ⟨rfl, .notText line _ hline hbytes⟩
  | ok text =>
    -- The variable has been checked, so the assignment does not fail.
    rcases (Frames.exists_assign_iff (Value.ofLine tag text)).2 h with ⟨frames, hframes⟩
    dsimp only
    rw [hframes]
    exact ⟨rfl, .value text _ (Line.shows_of_decode_next hdecode) (Frames.holds_of_assign hframes)⟩

end Machine

/-- Only a read touches the input. -/
theorem Effect.input_of_apply {m : Machine} {e : Effect} (h : ∀ v tag, e ≠ .read v tag) :
    (e.apply m).machine.input = m.input := by
  cases happly : e.apply m with
  | done after =>
    cases takesPlace_of_apply happly with
    | read v tag _ _ _ _ => exact absurd rfl (h v tag)
    | _ => rfl
  | failed fault after =>
    cases failsWith_of_apply happly with
    | notText v tag _ => exact absurd rfl (h v tag)
    | _ => rfl

namespace Instruction

variable {i : Instruction} {labels : LabelTable} {m : Machine} {v : Variable} {tag : TypeTag}

theorem execute_of_request (h : i.request? m.frames = some (v, tag)) :
    i.execute labels m = m.readLine v tag := by
  rcases request?_eq_some_iff.1 h with ⟨hop, hv, htag, -⟩
  have heffect : i.effect labels m = .ok (.read v tag) := by
    unfold effect
    rw [hop]
    exact read_eq_ok_iff.2 ⟨v, tag, hv, htag, rfl⟩
  exact execute_of_effect heffect

/-- Without a request nothing is taken from the input, and so a read whose variable cannot be
assigned takes nothing. -/
theorem input_of_no_request (h : i.request? m.frames = none) :
    (i.execute labels m).machine.input = m.input := by
  cases heffect : i.effect labels m with
  | error fault => rw [execute_of_error heffect, Outcome.machine]
  | ok e =>
    rw [execute_of_effect heffect]
    by_cases hread : ∃ v tag, e = .read v tag
    · rcases hread with ⟨v, tag, rfl⟩
      have hdeclared : ¬ m.frames.Declares v := by
        intro hdeclared
        cases effect_performs heffect with
        | read _ _ hop hv htag =>
          rw [request?_eq_some_iff.2 ⟨hop, hv, htag, hdeclared⟩] at h
          cases h
      rcases Machine.readLine_of_not_declares hdeclared with ⟨fault, hfault⟩
      exact congrArg (fun outcome => outcome.machine.input) hfault
    · exact Effect.input_of_apply fun v tag he => hread ⟨v, tag, he⟩

end Instruction

/-! ## Logs -/

namespace Machine

/-- The request of an instruction that has been started. -/
def Event.request? (event : Event) : Option (Variable × TypeTag) :=
  event.instruction.request? event.before.frames

/-- The requests of a log with their outcomes. -/
def reads (events : List Event) : List ((Variable × TypeTag) × Outcome) :=
  events.filterMap fun event => event.request?.map fun request => (request, event.outcome)

variable {p : Program} {start m : Machine} {events : List Event} {i : Instruction}
  {outcome : Outcome}

theorem reads_snoc (events : List Event) (event : Event) :
    reads (events ++ [event]) =
      reads events ++ (event.request?.map fun request => (request, event.outcome)).toList := by
  unfold reads
  rw [List.filterMap_append]
  rfl

/-- What the next instruction does to the input. -/
theorem input_of_dispatch (h : m.dispatch p = some (i, outcome)) :
    (i.request? m.frames = none ∧ outcome.machine.input = m.input) ∨
      ∃ v tag, i.request? m.frames = some (v, tag) ∧
        outcome.machine.input = (Line.next m.input).2 ∧
        Answers (Line.all m.input).head? v tag outcome := by
  rcases dispatch_eq_some_iff.1 h with ⟨-, rfl⟩
  cases hrequest : i.request? m.frames with
  | none =>
    have hfetched : i.request? m.fetch.frames = none := hrequest
    exact .inl ⟨rfl, Instruction.input_of_no_request hfetched⟩
  | some request =>
    rcases request with ⟨v, tag⟩
    have hfetched : i.request? m.fetch.frames = some (v, tag) := hrequest
    rw [Instruction.execute_of_request hfetched]
    have hdeclared := (Instruction.request?_eq_some_iff.1 hfetched).2.2.2
    exact .inr ⟨v, tag, rfl, readLine_of_declares hdeclared⟩

/-- After any number of instructions, as many lines are gone as there were requests. -/
theorem Log.lines (h : Log p start events m) :
    Line.all m.input = (Line.all start.input).drop (reads events).length := by
  induction h with
  | nil => rfl
  | @snoc events m i outcome _ hdispatch ih =>
    rw [reads_snoc, List.length_append]
    rcases input_of_dispatch hdispatch with ⟨hnone, hinput⟩ | ⟨v, tag, hsome, hinput, -⟩
    · rw [hinput, ih]
      simp [Event.request?, hnone]
    · have hone : ((Event.mk m i outcome).request?.map fun request =>
          (request, outcome)).toList.length = 1 := by
        simp [Event.request?, hsome]
      calc
        Line.all outcome.machine.input = (Line.all m.input).tail := by
          rw [hinput, (Line.next_eq_all m.input).2]
        _ = ((Line.all start.input).drop (reads events).length).tail := by rw [ih]
        _ = (Line.all start.input).drop ((reads events).length + 1) := List.tail_drop ..
        _ = _ := by rw [hone]

/-- Each request is answered by its own line. -/
theorem Log.answers (h : Log p start events m) {k : Nat} {v : Variable} {tag : TypeTag}
    {outcome : Outcome} (hk : (reads events)[k]? = some ((v, tag), outcome)) :
    Answers (Line.all start.input)[k]? v tag outcome := by
  induction h with
  | nil => cases hk
  | @snoc events m i last hlog hdispatch ih =>
    rw [reads_snoc] at hk
    by_cases hearlier : k < (reads events).length
    · rw [List.getElem?_append_left hearlier] at hk
      exact ih hk
    · rcases input_of_dispatch hdispatch with ⟨hnone, -⟩ | ⟨v', tag', hsome, -, hanswers⟩
      · simp [Event.request?, hnone, hearlier] at hk
      · have hlast : k - (reads events).length = 0 ∧ ((v', tag'), last) = ((v, tag), outcome) := by
          rw [List.getElem?_append_right (Nat.le_of_not_lt hearlier)] at hk
          simpa [Event.request?, hsome, List.getElem?_singleton] using hk
        have hindex : k = (reads events).length :=
          Nat.le_antisymm (Nat.le_of_sub_eq_zero hlast.1) (Nat.le_of_not_lt hearlier)
        cases hlast.2
        -- The last request is answered by the first one of the lines that are left.
        rw [hlog.lines, List.head?_drop, ← hindex] at hanswers
        exact hanswers

/-- Whatever runs have led to a state, what is left of the input is all but the first lines, one for
each request, and each request was answered by its own line. -/
theorem reads_take_lines (p : Program) (input : List UInt8) (output diagnostics : Channel) :
    (∀ results m, Calls p (.initial input output diagnostics) results m →
      ∃ events, Log p (.initial input output diagnostics) events m) ∧
    ∀ events m, Log p (.initial input output diagnostics) events m →
      (Line.all input).flatten = input ∧
      m.input = ((Line.all input).drop (reads events).length).flatten ∧
      (∀ (k : Nat) v tag outcome, (reads events)[k]? = some ((v, tag), outcome) →
        Answers (Line.all input)[k]? v tag outcome) ∧
      ∀ event ∈ events, event.request? = none →
        event.outcome.machine.input = event.before.input := by
  constructor
  · intro results m hcalls
    exact hcalls.reaches.exists_log
  · intro events m hlog
    refine ⟨Line.flatten_all input, ?_, ?_, ?_⟩
    · have hlines : Line.all m.input = (Line.all input).drop (reads events).length := hlog.lines
      rw [← hlines, Line.flatten_all]
    · intro k v tag outcome hk
      exact hlog.answers hk
    · intro event hmem hnone
      rcases input_of_dispatch (hlog.dispatch_of_mem hmem) with ⟨-, hinput⟩ | ⟨v, tag, hsome, -, -⟩
      · exact hinput
      · rw [Event.request?, hsome] at hnone
        cases hnone

/-- A read of an undeclared variable, then a line that ends in a carriage return and a line feed,
and one that is not text. -/
theorem reads_take_lines_failures :
    ∃ (p : Program) (results : List (Option RuntimeError)) (events : List Event) (m : Machine),
      Calls p (.initial [0x35, 0x0d, 0x0a, 0xff, 0x0a] (.ofRoom none) (.ofRoom none)) results m ∧
      (∃ events,
        Log p (.initial [0x35, 0x0d, 0x0a, 0xff, 0x0a] (.ofRoom none) (.ofRoom none)) events m) ∧
      Log p (.initial [0x35, 0x0d, 0x0a, 0xff, 0x0a] (.ofRoom none) (.ofRoom none)) events m ∧
      results.length = 3 ∧ events.length = 4 ∧ (reads events).length = 2 ∧
      m.input = ((Line.all [0x35, 0x0d, 0x0a, 0xff, 0x0a]).drop 2).flatten ∧
      Answers (some [0xff, 0x0a]) ⟨.global, "x"⟩ .string (.failed (.channel .notText) m) := by
  let start : Machine := .initial [0x35, 0x0d, 0x0a, 0xff, 0x0a] (.ofRoom none) (.ofRoom none)
  let declared : Machine :=
    { start with frames := ⟨Frame.empty.put "x" none, [], none⟩, pc := 1, executed := 1 }
  let assigned : Machine :=
    { start with
      frames := ⟨Frame.empty.put "x" (some (.int 5)), [], none⟩, pc := 3, executed := 3,
      input := [0xff, 0x0a] }
  let last : Machine := { assigned with pc := 4, executed := 4, input := [] }
  let p : Program :=
    ⟨#[⟨.declare, .ofInt 1, [.var ⟨.global, "x"⟩]⟩,
      ⟨.read, .ofInt 2, [.var ⟨.global, "y"⟩, .literal (.type .int)]⟩,
      ⟨.read, .ofInt 3, [.var ⟨.global, "x"⟩, .literal (.type .int)]⟩,
      ⟨.read, .ofInt 4, [.var ⟨.global, "x"⟩, .literal (.type .string)]⟩], .empty⟩
  have hfirst : start.dispatch p = some (_, .done declared) := rfl
  have hsecond : declared.dispatch p =
    some (_, .failed (.undefinedVariable ⟨.global, "y"⟩) declared.fetch) := rfl
  have hthird : declared.fetch.dispatch p =
      some (⟨.read, .ofInt 3, [.var ⟨.global, "x"⟩, .literal (.type .int)]⟩, .done assigned) :=
    dispatch_eq_some_iff.2 ⟨rfl, (Instruction.execute_of_request rfl).trans rfl⟩
  have hfourth : assigned.dispatch p =
      some (⟨.read, .ofInt 4, [.var ⟨.global, "x"⟩, .literal (.type .string)]⟩,
        .failed (.channel .notText) last) :=
    dispatch_eq_some_iff.2 ⟨rfl, (Instruction.execute_of_request rfl).trans rfl⟩
  have hlog := (((Log.nil.snoc hfirst).snoc hsecond).snoc hthird).snoc hfourth
  have hrest : run p 9 declared.fetch = some (some ⟨.channel .notText, .ofInt 4⟩, last) := by
    simp only [run, hthird, hfourth]
  have hcalls : Calls p start [_, _, _] last :=
    .cons 9 rfl (.cons 9 hrest (.cons 9 rfl (.nil _)))
  rcases (reads_take_lines p _ _ _).2 _ _ hlog with ⟨-, hinput, hanswers, -⟩
  exact ⟨p, _, _, last, hcalls, (reads_take_lines p _ _ _).1 _ _ hcalls, hlog, rfl, rfl, rfl,
    hinput, hanswers 1 _ _ _ rfl⟩

end Machine
end FrameCode
