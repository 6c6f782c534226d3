import DeckDump.CommandLine.Run
import Mathlib.Data.List.Basic

/-!
# The wording that the program comes with

The log and the reports that the program comes with are as documented:

* `indented_of_plain`, `plain_of_plain`: one line of printable characters is shown as it is;
* `shownLog_append`: a log is shown event by event;
* `documented_of_wording`, `documented_libraries`: both halves put together.
-/

namespace DeckDump.CommandLine

theorem IsPlain.append {s t : String} (hs : IsPlain s) (ht : IsPlain t) : IsPlain (s ++ t) := by
  intro c mem
  rw [String.toList_append, List.mem_append] at mem
  exact mem.elim (hs c) (ht c)

theorem indented_of_plain {s : String} (plain : IsPlain s) : indented s = s := by
  have single : ∀ c ∈ s.toList, (if c = '\n' then "\n    ".toList else [c]) = [c] := by
    intro c mem
    refine if_neg ?_
    rintro rfl
    exact absurd (plain _ mem).1 (by decide)
  rw [indented, List.flatMap_congr single, List.flatMap_singleton', String.ofList_toList]

theorem isShown_of_plain {c : Char} (plain : ' ' ≤ c ∧ c ≤ '~') : Terminal.isShown c = true := by
  have first : 0x20 ≤ c.toNat := plain.1
  have last : c.toNat ≤ 0x7E := plain.2
  have visible : Text.isControl c = false := by
    rw [Text.isControl, Bool.or_eq_false_iff, decide_eq_false_iff_not, beq_eq_false_iff_ne]
    refine ⟨by omega, ?_⟩
    rintro rfl
    exact absurd last (by decide)
  rw [Terminal.isShown, visible]
  exact Bool.or_true _

/-- One line of printable characters is shown as it is, and so is the line feed behind it. -/
theorem plain_of_plain {s : String} (plain : IsPlain s) : Terminal.plain (s ++ "\n") = s ++ "\n" := by
  refine Terminal.plain_of_shown fun c mem => ?_
  rw [String.toList_append, List.mem_append] at mem
  obtain mem | feed := mem
  · exact isShown_of_plain (plain c mem)
  · obtain rfl : c = '\n' := List.mem_singleton.1 feed
    rfl

/-- What a line of the log says in front of the message. -/
def heading (e : Event) : String := "[" ++ Text.padRight 5 ' ' e.level.label ++ " " ++ e.origin ++ "] "

theorem isPlain_heading (e : Event) : IsPlain (heading e) := by
  have level : IsPlain (Text.padRight 5 ' ' e.level.label) := by
    cases e.level <;> decide +kernel
  have origin : IsPlain e.origin := by
    cases e <;> simp only [Event.origin] <;> decide +kernel
  have opening : IsPlain "[" := by decide +kernel
  have between : IsPlain " " := by decide +kernel
  have closing : IsPlain "] " := by decide +kernel
  exact (((opening.append level).append between).append origin).append closing

/-- A log is shown event by event. -/
theorem shownLog_append (l : Level) (front back : List Event) :
    shownLog l (front ++ back) = shownLog l front ++ shownLog l back := by
  simp [shownLog]

/-- An event that is shown makes a line of its own. -/
theorem shownLog_of_plain {l : Level} {e : Event} (shown : l.includes e.level = true) (plain : IsPlain e.message) :
    shownLog l [e] = heading e ++ e.message ++ "\n" := by
  have line : IsPlain (heading e ++ e.message) := (isPlain_heading e).append plain
  have text : eventText e = heading e ++ e.message ++ "\n" := by
    rw [eventText, ← indented_of_plain line, heading]
  rw [shownLog, List.filter_singleton, shown, cond_true, List.map_singleton, text, plain_of_plain line]
  exact String.empty_append

/-- This wording of the log and of reports is as documented, whoever provides the rest. -/
theorem documented_of_wording {libs : Libraries} (log : libs.logText = shownLog) (report : libs.report = reportText) :
    libs.Documented where
  logged l before e shown plain := by
    refine ⟨heading e, ?_⟩
    rw [log, shownLog_append, shownLog_of_plain shown plain, ← String.append_assoc, ← String.append_assoc]
  reported doing cause := by
    rw [report]
    rfl

/-- What the program comes with is as documented. -/
theorem documented_libraries : libraries.Documented := documented_of_wording rfl rfl

end DeckDump.CommandLine
