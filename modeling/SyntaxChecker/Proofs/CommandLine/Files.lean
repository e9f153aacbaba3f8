import SyntaxChecker.Proofs.CommandLine.Agreement

/-!
# Many files

Files that are checked together are checked one after the other, and nothing is carried over
from one to the next: the sink is a fresh one for each file, and of the status only the worse
one is kept. So to check many files is to check each of them alone
(`files_checked_one_by_one`), and it does not matter to a file what is wrong with the others.
There is one exception. A file whose bytes are no text ends the command. The files behind it
are not looked at, and what was written about those before it remains.
-/

namespace SyntaxChecker.CommandLine

open SourceText (Reader)

/-! ## Transcripts in a row -/

namespace Transcript

/-- Transcripts one after the other, channel by channel. -/
def join (ts : List Transcript) : Transcript :=
  ⟨String.join (ts.map output), String.join (ts.map reports)⟩

@[simp] theorem join_cons (t : Transcript) (ts : List Transcript) : join (t :: ts) = t ++ join ts :=
  Transcript.ext (String.join_cons ..) (String.join_cons ..)

end Transcript

/-! ## Switches and files -/

/-- The spellings of the switches that tell how a report is to look. -/
def styleFlags : List String := Command.styleSwitches.map Prod.fst

/-- The style that is asked for by switches. -/
def ReportStyle.ofFlags (flags : List String) : ReportStyle :=
  ⟨flags.contains "--innermost-first", flags.contains "-D" || flags.contains "--debug"⟩

/-- What was given, and besides some switches that tell how a report is to look. -/
def Given.withFlags (g : Given) (flags : List String) : Given :=
  { g with
    innermostFirst := g.innermostFirst || (ReportStyle.ofFlags flags).innermostFirst
    debug := g.debug || (ReportStyle.ofFlags flags).debug }

/-- Arguments without a leading hyphen are values. -/
theorem slots_of_head? (switches : List (String × Switch)) {args : List String}
    (h : ∀ arg ∈ args, arg.toList.head? ≠ some '-') :
    slots switches args = some (args.map .value) := by
  induction args with
  | nil => rfl
  | cons arg args ih =>
    obtain ⟨harg, hargs⟩ := List.forall_mem_cons.1 h
    rw [slots, if_neg (ne_separator_of_head? harg), slot_of_head? harg, ih hargs]
    rfl

/-- Values that stand together at the end are read as one run. -/
theorem readSlots_values (u : Usage) (run : List String) (g : Given) (values : List String) :
    readSlots u (some run) g (values.map .value) = readSlots u (some (run ++ values)) g [] := by
  induction values generalizing run with
  | nil => rw [List.append_nil, List.map_nil]
  | cons v values ih =>
    have hstep : readSlots u (some run) g (.value v :: values.map .value)
        = readSlots u (some (run ++ [v])) g (values.map .value) := by
      conv_lhs => unfold readSlots
      rfl
    rw [List.map_cons, hstep, ih, List.append_assoc]
    rfl

/-- A switch for the style, given first. -/
theorem readSlots_styleFlag {flag : String} (hflag : flag ∈ styleFlags) :
    ∃ s, slot Command.check.usage.switches flag = some s ∧ ∀ g ss,
      readSlots Command.check.usage none g (s :: ss)
        = readSlots Command.check.usage none (g.withFlags [flag]) ss := by
  have hread : ∀ (s : Switch) (g : Given) (ss : List Slot), s = .innermostFirst ∨ s = .debug →
      readSlots Command.check.usage none g (.switch s .nothing :: ss)
        = readSlots Command.check.usage none (g.noteSwitch s) ss := by
    rintro s g ss (rfl | rfl)
    all_goals
      conv_lhs => unfold readSlots
      rfl
  have hcases : flag = "--innermost-first" ∨ flag = "-D" ∨ flag = "--debug" := by
    simpa [styleFlags, Command.styleSwitches] using hflag
  rcases hcases with rfl | rfl | rfl
  · refine ⟨.switch .innermostFirst .nothing, rfl, fun g ss => ?_⟩
    rw [hread _ g ss (.inl rfl)]
    simp [Given.noteSwitch, Given.withFlags, ReportStyle.ofFlags]
  all_goals
    refine ⟨.switch .debug .nothing, rfl, fun g ss => ?_⟩
    rw [hread _ g ss (.inr rfl)]
    simp [Given.noteSwitch, Given.withFlags, ReportStyle.ofFlags]

theorem Given.withFlags_cons (g : Given) (flag : String) (flags : List String) :
    g.withFlags (flag :: flags) = (g.withFlags [flag]).withFlags flags := by
  simp only [Given.withFlags, ReportStyle.ofFlags, List.contains_cons, List.contains_nil,
    Bool.or_false, Bool.or_assoc, Given.mk.injEq, true_and, and_true]
  ac_nf

/-- **Switches for the style** that stand first say nothing else. -/
theorem readSlots_styleFlags {flags : List String} (hflags : ∀ flag ∈ flags, flag ∈ styleFlags)
    {args : List String} {ss : List Slot}
    (hargs : slots Command.check.usage.switches args = some ss) (g : Given) :
    ∃ ss', slots Command.check.usage.switches (flags ++ args) = some ss'
      ∧ readSlots Command.check.usage none g ss'
        = readSlots Command.check.usage none (g.withFlags flags) ss := by
  induction flags generalizing g with
  | nil =>
    have hnone : g.withFlags [] = g := by simp [Given.withFlags, ReportStyle.ofFlags]
    exact ⟨ss, hargs, by rw [hnone]⟩
  | cons flag flags ih =>
    obtain ⟨hflag, hflags⟩ := List.forall_mem_cons.1 hflags
    obtain ⟨s, hslot, hread⟩ := readSlots_styleFlag hflag
    obtain ⟨ss', hslots, hreads⟩ := ih hflags (g.withFlags [flag])
    have hnotEnd : flag ≠ "--" := by
      rintro rfl
      exact absurd hflag (by decide)
    refine ⟨s :: ss', ?_, ?_⟩
    · rw [List.cons_append, slots, if_neg hnotEnd, hslot, hslots]
    · rw [hread, hreads, Given.withFlags_cons g flag flags]

/-- **The files are those that are named**, all of them in their order. -/
theorem readArguments_checkFiles {flags paths : List String}
    (hflags : ∀ flag ∈ flags, flag ∈ styleFlags) (hne : paths ≠ [])
    (hpaths : ∀ p ∈ paths, p.toList.head? ≠ some '-') :
    readArguments ("check" :: (flags ++ paths))
      = .proceed (.check paths (ReportStyle.ofFlags flags)) := by
  obtain ⟨ss, hslots, hread⟩ := readSlots_styleFlags hflags
    (slots_of_head? Command.check.usage.switches hpaths) .nothing
  show (Command.check.read _).withSurplus false = _
  rw [withSurplus_false, Command.read, Usage.read, hslots]
  dsimp only
  rw [hread]
  cases paths with
  | nil => exact absurd rfl hne
  | cons p paths =>
    rw [List.map_cons, readSlots, readSlots_values]
    simp [readSlots, Given.noteRun, Given.withFlags, Given.nothing, Command.usage, Arity.admits,
      Command.request]

/-! ## One file and many -/

/-- **A file is there, but its bytes are no text.** -/
def Undecodable (read : Reader) (path : String) : Prop :=
  ∃ bytes, read path = .ok bytes ∧ SourceText.ofBytes? bytes = none

theorem load_eq_undecodable_iff {read : Reader} {path : String} :
    SourceText.load read path = .error .undecodable ↔ Undecodable read path := by
  unfold SourceText.load Undecodable
  rcases read path with f | bytes
  · simp
  · dsimp only
    cases hbytes : SourceText.ofBytes? bytes <;> simp [hbytes]

instance (read : Reader) (path : String) : Decidable (Undecodable read path) :=
  decidable_of_iff (SourceText.load read path = .error .undecodable) load_eq_undecodable_iff

/-- Nothing is written about a file whose bytes are no text. -/
theorem checkPath_of_undecodable {read : Reader} {path : String} (h : Undecodable read path)
    (style : ReportStyle) : checkPath read style path = (.error .undecodable, .empty) := by
  rw [checkPath, withText, load_eq_undecodable_iff.2 h]

/-- **The check of any other file returns a status.** -/
theorem checkPath_status {read : Reader} {path : String} (h : ¬ Undecodable read path)
    (style : ReportStyle) :
    (checkPath read style path).1 = .ok statusOk
      ∨ (checkPath read style path).1 = .ok statusFailed := by
  unfold checkPath withText
  rcases hload : SourceText.load read path with f | text
  · rcases load_eq_error hload with rfl | ⟨o, rfl⟩
    · exact absurd (load_eq_undecodable_iff.1 hload) h
    · exact .inr rfl
  · dsimp only
    cases houtcome : (checkText text Sink.recorder path).1 with
    | ok => exact .inl rfl
    | error r =>
      obtain ⟨hsyn, -⟩ := pointedAt_of_checkText houtcome
      rw [checkReport, if_pos hsyn]
      exact .inr rfl

/-- Nothing but the file itself has an influence on its check. -/
theorem checkPath_congr {read read' : Reader} {path : String} (h : read' path = read path)
    (style : ReportStyle) : checkPath read' style path = checkPath read style path := by
  have hload : SourceText.load read' path = SourceText.load read path := by
    unfold SourceText.load
    rw [h]
  rw [checkPath, withText, hload]
  rfl

section Many

variable {read : Reader} {style : ReportStyle}

/-- **Files that hold a text or cannot be opened** are all checked, and the worst status
remains. -/
theorem checkPaths_of_decodable {paths : List String} (h : ∀ p ∈ paths, ¬ Undecodable read p) :
    checkPaths read style paths
      = (.ok (if ∃ p ∈ paths, (checkPath read style p).1 = .ok statusFailed then statusFailed
          else statusOk),
        .join (paths.map fun p => (checkPath read style p).2)) := by
  induction paths with
  | nil => rfl
  | cons p paths ih =>
    obtain ⟨hp, hpaths⟩ := List.forall_mem_cons.1 h
    have hstatus := checkPath_status hp style
    unfold checkPaths
    rw [ih hpaths, List.map_cons, Transcript.join_cons]
    simp only [List.exists_mem_cons_iff]
    generalize checkPath read style p = result at hstatus ⊢
    obtain ⟨outcome, t⟩ := result
    rcases hstatus with rfl | rfl
    · -- the status is that of the other files
      have hne : ¬ (Except.ok statusOk : Result) = .ok statusFailed := by decide
      simp only [hne, false_or]
      exact Prod.ext (congrArg Except.ok (Nat.zero_max _)) rfl
    · dsimp only
      rw [if_pos (Or.inl rfl)]
      refine Prod.ext (congrArg Except.ok (max_eq_left ?_)) rfl
      split <;> decide

/-- **A file whose bytes are no text ends the command**, with what was written before. -/
theorem checkPaths_of_undecodable {before : List String} {p : String}
    (hbefore : ∀ q ∈ before, ¬ Undecodable read q) (hp : Undecodable read p)
    (after : List String) :
    checkPaths read style (before ++ p :: after)
      = (.error .undecodable, .join (before.map fun q => (checkPath read style q).2)) := by
  induction before with
  | nil =>
    rw [List.nil_append, checkPaths, checkPath_of_undecodable hp]
    rfl
  | cons q before ih =>
    obtain ⟨hq, hbefore⟩ := List.forall_mem_cons.1 hbefore
    have hstatus := checkPath_status hq style
    rw [List.cons_append, checkPaths, ih hbefore, List.map_cons, Transcript.join_cons]
    generalize checkPath read style q = result at hstatus ⊢
    obtain ⟨outcome, t⟩ := result
    rcases hstatus with rfl | rfl <;> rfl

end Many

/-- **Files are checked one by one.** Let any files be checked together, with any switches
that tell how a report is to look. What is written about a file when it is checked alone
depends on that file only. If the bytes of none of them are no text, then each check of one
file returns zero or two, the check of all files returns two if one of those does and zero
otherwise, and it writes what they write, in the order of the files and on each of the two
channels. If the bytes of a file are no text, and it is the first such file, the command
breaks off, having written what the checks of the files before it write alone and
together. -/
theorem files_checked_one_by_one (read : Reader) {flags paths : List String}
    (hflags : ∀ flag ∈ flags, flag ∈ styleFlags) (hne : paths ≠ [])
    (hpaths : ∀ p ∈ paths, p.toList.head? ≠ some '-') :
    let checked := fun ps => run read ("check" :: (flags ++ ps))
    let written := fun ps => Transcript.join (ps.map fun p => (checked [p]).2)
    (∀ p ∈ paths, ∀ read' : Reader, read' p = read p →
      run read' ("check" :: (flags ++ [p])) = checked [p])
    ∧ ((∀ p ∈ paths, ¬ Undecodable read p) →
      (∀ p ∈ paths, (checked [p]).1 = .returned 0 ∨ (checked [p]).1 = .returned 2)
      ∧ checked paths
        = (.returned (if ∃ p ∈ paths, (checked [p]).1 = .returned 2 then 2 else 0),
          written paths))
    ∧ ∀ before p after, paths = before ++ p :: after → (∀ q ∈ before, ¬ Undecodable read q) →
      Undecodable read p →
        checked paths = (.brokeOff .undecodable, written before)
        ∧ (before ≠ [] → (checked before).2 = written before) := by
  intro checked written
  let style := ReportStyle.ofFlags flags
  have hsome : ∀ ps, ps ≠ [] → (∀ p ∈ ps, p ∈ paths) → checked ps
      = (.ofResult (checkPaths read style ps).1, (checkPaths read style ps).2) :=
    fun ps hps hsub =>
      run_of_proceed (readArguments_checkFiles hflags hps fun p hp => hpaths p (hsub p hp)) read
  have halone : ∀ p ∈ paths, checked [p]
      = (.ofResult (checkPath read style p).1, (checkPath read style p).2) := fun p hp => by
    rw [hsome [p] (List.cons_ne_nil _ _) (List.forall_mem_singleton.2 hp),
      checkPaths_singleton]
  have hwritten : ∀ ps, (∀ p ∈ ps, p ∈ paths) →
      written ps = .join (ps.map fun p => (checkPath read style p).2) := fun ps hsub =>
    congrArg Transcript.join (List.map_congr_left fun p hp => by rw [halone p (hsub p hp)])
  refine ⟨fun p hp read' hread => ?_, fun hall => ⟨fun p hp => ?_, ?_⟩, ?_⟩
  · have hread' := run_of_proceed (readArguments_checkFiles hflags (List.cons_ne_nil p [])
      (List.forall_mem_singleton.2 (hpaths p hp))) read'
    rw [hread', Request.run, checkPaths_singleton, checkPath_congr hread, halone p hp]
  · rw [halone p hp]
    exact (checkPath_status (hall p hp) style).imp (fun h => by rw [h]; rfl)
      (fun h => by rw [h]; rfl)
  · have hworst : (∃ p ∈ paths, (checked [p]).1 = .returned 2)
        ↔ ∃ p ∈ paths, (checkPath read style p).1 = .ok statusFailed := by
      refine exists_congr fun p => and_congr_right fun hp => ?_
      rw [halone p hp]
      rcases checkPath_status (hall p hp) style with h | h
      all_goals
        dsimp only
        rw [h]
        decide
    rw [hsome paths hne fun _ hp => hp, checkPaths_of_decodable hall, hwritten paths fun _ hp => hp]
    simp only [hworst]
    rfl
  · rintro before p after rfl hbefore hp
    have hsub : ∀ q ∈ before, q ∈ before ++ p :: after := fun q hq => List.mem_append_left _ hq
    refine ⟨?_, fun hnonempty => ?_⟩
    · rw [hsome _ hne fun _ hq => hq, checkPaths_of_undecodable hbefore hp, hwritten before hsub]
      rfl
    · rw [hsome before hnonempty hsub, checkPaths_of_decodable hbefore, hwritten before hsub]

/-- One file holds `x`, which is no program, the bytes of another one are no text, a third name
is that of a directory, and all others are missing. -/
theorem files_checked_one_by_one_four_files :
    let read : Reader := fun path =>
      if path = "wrong" then .ok [120] else if path = "broken" then .ok [255]
      else if path = "folder" then .error .directory else .error .missing
    let flags := ["-D", "--innermost-first"]
    let before := ["folder", "wrong", "absent", "wrong"]
    let paths := before ++ "broken" :: ["wrong"]
    let checked := fun ps => run read ("check" :: (flags ++ ps))
    let written := fun ps => Transcript.join (ps.map fun p => (checked [p]).2)
    (∀ flag ∈ flags, flag ∈ styleFlags) ∧ before ≠ [] ∧ paths ≠ []
      ∧ (∀ p ∈ paths, p.toList.head? ≠ some '-')
      ∧ (∀ p ∈ before, ¬ Undecodable read p) ∧ Undecodable read "broken"
      ∧ checked before = (.returned 2, written before)
      ∧ checked paths = (.brokeOff .undecodable, written before)
      ∧ (checked paths).2 = (checked before).2 := by
  intro read flags before paths checked written
  have hflags : ∀ flag ∈ flags, flag ∈ styleFlags := by decide
  have hbefore : before ≠ [] := List.cons_ne_nil _ _
  have hne : paths ≠ [] := List.cons_ne_nil _ _
  have hpaths : ∀ p ∈ paths, p.toList.head? ≠ some '-' := by decide
  have hdecodable : ∀ p ∈ before, ¬ Undecodable read p := by
    dsimp only [before, read]
    decide +kernel
  have hbroken : Undecodable read "broken" := ⟨[255], rfl, by decide +kernel⟩
  have hfailed : (checked ["absent"]).1 = .returned 2 := rfl
  obtain ⟨-, htogether, -⟩ := files_checked_one_by_one read hflags hbefore
    fun p hp => hpaths p (List.mem_append_left _ hp)
  obtain ⟨-, -, hbreaks⟩ := files_checked_one_by_one read hflags hne hpaths
  obtain ⟨-, hreturned⟩ := htogether hdecodable
  obtain ⟨hbroke, hsame⟩ := hbreaks before "broken" ["wrong"] rfl hdecodable hbroken
  refine ⟨hflags, hbefore, hne, hpaths, hdecodable, hbroken, ?_, hbroke, ?_⟩
  · rw [if_pos ⟨"absent", by decide, hfailed⟩] at hreturned
    exact hreturned
  · exact (congrArg Prod.snd hbroke).trans (hsame hbefore).symm

end SyntaxChecker.CommandLine
