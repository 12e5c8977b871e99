import Postmortem.LoadedModule.Listing
import Postmortem.Proofs.Session.Log
import Postmortem.Transcript

/-!
# Fetching from a recorded session

A channel tries commands in order until one has an output that can be read. A session that replays
a transcript meets all that can go wrong on the way: a command crashed or timed out, nothing was
recorded for it, its answer says that the data is unavailable, or its output cannot be read.

What is found, which commands are run and what is noted about them fit together. `Fetches` relates
the first two: the commands in front of the first readable one come to nothing, and those behind it
are not run. The notes follow from the commands that were run (`failures`, `refusals`).

* `fetches`: **the commands that are tried and what is found are related that way.**
* `fetchText_replays`: **a channel over a replayed session runs those commands and notes what failed
  and what was unavailable among them**, behind what it had noted before.
-/

namespace Postmortem

variable {α : Type}

/-- What the record of a command means to a session. -/
def Transcript.outcome (t : Transcript) (timeout : Duration) (command : String) : Outcome :=
  (t.reply command).outcome command timeout

section Fetches

variable (outcome : String → Outcome) (read? : String → Option α)

/-- Whether a command has an output that can be read. -/
def IsReadable (command : String) : Prop :=
  ∃ text a, outcome command = .output text ∧ read? text = some a

/-- **Which of some commands are run, and what is found by them.** -/
inductive Fetches : List String → List String → Option (String × α) → Prop
  /-- The first readable command is the last one that is run. -/
  | found {front behind : List String} {command text : String} {a : α}
    (hfront : ∀ c ∈ front, ¬ IsReadable outcome read? c) (houtput : outcome command = .output text)
    (hread : read? text = some a) :
    Fetches (front ++ command :: behind) (front ++ [command]) (some (text, a))
  /-- If no command is readable, all of them are run. -/
  | nothing {commands : List String} (hnone : ∀ c ∈ commands, ¬ IsReadable outcome read? c) :
    Fetches commands commands none

end Fetches

variable {outcome : String → Outcome} {read? : String → Option α}

/-- A command that is not readable is run in front of the others. -/
theorem Fetches.cons {command : String} {commands ran : List String} {found : Option (String × α)}
    (h : Fetches outcome read? commands ran found) (hnot : ¬ IsReadable outcome read? command) :
    Fetches outcome read? (command :: commands) (command :: ran) found := by
  cases h with
  | found hfront houtput hread => exact .found (List.forall_mem_cons.2 ⟨hnot, hfront⟩) houtput hread
  | nothing hnone => exact .nothing (List.forall_mem_cons.2 ⟨hnot, hnone⟩)

theorem Outcome.output?_eq_some_iff {o : Outcome} {text : String} :
    o.output? = some text ↔ o = .output text := by
  cases o <;> simp [Outcome.output?]

/-- **The commands that are tried and the first readable output fit together.** -/
theorem fetches (outcome : String → Outcome) (read? : String → Option α) (commands : List String) :
    Fetches outcome read? commands (tried read? outcome commands)
      (firstReadable read? outcome commands) := by
  induction commands with
  | nil => exact .nothing (List.forall_mem_nil _)
  | cons command rest ih =>
    unfold tried firstReadable
    rw [List.findSome?_cons]
    by_cases hreadable : IsReadable outcome read? command
    · obtain ⟨text, a, houtput, hread⟩ := hreadable
      simp only [houtput, Outcome.output?, Option.bind_some, hread, Option.isSome_some, if_true,
        Option.map_some]
      exact .found (List.forall_mem_nil _) houtput hread
    · have hskip : ∀ text, (outcome command).output? = some text → read? text = none :=
        fun text htext => Option.eq_none_iff_forall_ne_some.2 fun a hread =>
          hreadable ⟨text, a, Outcome.output?_eq_some_iff.1 htext, hread⟩
      rw [Option.bind_eq_none_iff.2 hskip,
        Option.bind_eq_none_iff.2 fun text htext => by rw [hskip text htext, Option.map_none]]
      exact ih.cons hreadable

namespace Channel

/-- **What a channel over a replayed session finds, runs and notes.** -/
theorem fetchText_replays {t : Transcript} {channel : Channel}
    (h : channel.session.backend = t.backend) (read? : String → Option α)
    (commands : List String) :
    let answer := t.outcome channel.session.timeout
    let result := fetchText read? commands channel
    ∃ ran, Fetches answer read? commands ran result.1 ∧
      result.2.session.executed = channel.session.executed ++ ran ∧
      result.2.session.crashLog = channel.session.crashLog ++ failures answer ran ∧
      result.2.unavailable = channel.unavailable ++ refusals answer ran := by
  intro answer result
  have hanswer : answer = channel.session.outcome := by
    funext command
    change (t.backend.reply command).outcome command channel.session.timeout = _
    rw [← h]
    rfl
  have hfound : result.1 = firstReadable read? answer commands := by
    rw [hanswer]
    exact fetchText_fst read? commands channel
  have hafter : result.2 = channel.after (tried read? answer commands)
      (tried read? answer commands) := by
    rw [hanswer]
    exact fetchText_snd read? commands channel
  refine ⟨tried read? answer commands, ?_, ?_⟩
  · rw [hfound]
    exact fetches answer read? commands
  · rw [hafter, hanswer]
    exact ⟨rfl, rfl, rfl⟩

/-- A session in which most commands that list modules come to nothing. -/
def hiddenModules : Transcript where
  commands := ⟨[
    ("image dump", "The thread has no frames.\n"),
    ("image list", "[0] 0x1000 /app/App.dll\n"),
    ("modules", "Error: SOS not loaded\n"),
    ("modules -v", "[0] 0x2000 /app/Host.dll\n")]⟩
  crashes := ["lm"]
  timeouts := ["lm v"]

/-- A channel over that session that lost the heap to a crash and has no locks. -/
def withoutHeapAndLocks : Channel where
  session :=
    { backend := hiddenModules.backend
      timeout := .ofSeconds 30
      executed := ["dumpheap -stat", "syncblk"]
      crashLog := [⟨"dumpheap -stat", "recorded crash"⟩] }
  unavailable := [⟨"syncblk", "not recorded"⟩]

/-- The modules of the sixth command are found, and those of the seventh are not asked for. -/
theorem fetchText_replays_hiddenModules :
    let commands := ["!lm", "lm v", "lmi", "modules", "image dump", "image list", "modules -v"]
    let answer := hiddenModules.outcome withoutHeapAndLocks.session.timeout
    let result := fetchText LoadedModule.ofListing? commands withoutHeapAndLocks
    withoutHeapAndLocks.session.backend = hiddenModules.backend ∧
      result.1.map Prod.fst = some "[0] 0x1000 /app/App.dll\n" ∧
      result.2.session.crashLog.map CrashRecord.command = ["dumpheap -stat", "!lm", "lm v"] ∧
      result.2.unavailable =
        [⟨"syncblk", "not recorded"⟩, ⟨"lmi", "not recorded"⟩, ⟨"modules", "sos not loaded"⟩] ∧
      ∃ ran, Fetches answer LoadedModule.ofListing? commands ran result.1 ∧
        result.2.session.executed = withoutHeapAndLocks.session.executed ++ ran ∧
        result.2.session.crashLog =
          withoutHeapAndLocks.session.crashLog ++ failures answer ran ∧
        result.2.unavailable = withoutHeapAndLocks.unavailable ++ refusals answer ran := by
  intro commands answer result
  exact ⟨rfl, by decide +kernel, by decide +kernel, by decide +kernel,
    fetchText_replays rfl LoadedModule.ofListing? commands⟩

end Channel

end Postmortem
