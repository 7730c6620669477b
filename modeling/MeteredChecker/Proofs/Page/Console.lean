import MeteredChecker.Page.Console
import MeteredChecker.Proofs.Page.Start
import MeteredChecker.Proofs.Service.Wire
import MeteredChecker.Proofs.Text.Blank
import MeteredChecker.Proofs.Text.Utf8

/-!
# The console is the log, filtered

An event goes a long way before it is a line of the console.  It is formatted, written as octets
in pieces, kept, read as text again by a reader that never fails, and cut at its end; and a
writer that has nothing left then makes no call at all.  Each of these could lose something, and
none of them does (`Page.Console.exists_close`):

* how the octets come in pieces makes no difference, since the writer acts on all of them at once;
* the reader puts U+FFFD for what it cannot read, but what it gets has been written as UTF-8, so it
  reads what was written, whatever a server has put into the text;
* what is cut off is blank, and the letters of the level are not, so something is left.

What remains is the filter, and a filter keeps the order.  So the calls are the events that
matter enough, one for one (`Page.Console.shows_lines`).
-/

namespace MeteredChecker

namespace Page

namespace Console

/-! ## Writers -/

/-- A writer keeps what is written to it, in order. -/
theorem foldl_write (chunks : List (List UInt8)) (w : Writer) :
    chunks.foldl Writer.write w = ⟨w.level, w.octets ++ chunks.flatten⟩ := by
  induction chunks generalizing w with
  | nil => rw [List.foldl_nil, List.flatten_nil, List.append_nil]
  | cons chunk chunks ih =>
    rw [List.foldl_cons, ih, List.flatten_cons, Writer.write, List.append_assoc]

/-! ## Lines -/

/-- The name of a level, set to the right in five columns. -/
def column : Level → String
  | .error => "ERROR"
  | .warn => " WARN"
  | .info => " INFO"
  | .debug => "DEBUG"

/-- **A line tells an event**: it goes to the method of the event's level, and it is the level,
the place that the event comes from and the text of the event, without the blanks at the end. -/
structure Tells (line : Line) (e : LogEvent) : Prop where
  method : (e.level, line.method) ∈ [(Level.error, "error"), (.warn, "warn"), (.info, "info")]
  text : ∃ blanks : List Char, (∀ c ∈ blanks, Text.isBlank c = true) ∧
    (column e.level ++ " " ++ e.target ++ ": " ++ e.text ++ "\n").toList =
      line.text.toList ++ blanks
  trimmed : ∀ c ∈ line.text.toList.getLast?, Text.isBlank c = false
  nonempty : line.text ≠ ""

theorem format_eq (e : LogEvent) :
    format e = column e.level ++ " " ++ e.target ++ ": " ++ e.text ++ "\n" := by
  have hcolumn : String.ofList (List.replicate (5 - e.level.name.length) ' ') ++ e.level.name =
      column e.level := by
    cases e.level <;> decide +kernel
  rw [format, hcolumn]

/-- The letters of a level are no blanks. -/
theorem exists_mem_format (e : LogEvent) : ∃ c ∈ (format e).toList, Text.isBlank c = false := by
  have hcolumn : ∃ c ∈ (column e.level).toList, Text.isBlank c = false := by
    cases e.level with
    | error | warn => exact ⟨'R', by decide +kernel, by decide⟩
    | info => exact ⟨'I', by decide +kernel, by decide⟩
    | debug => exact ⟨'D', by decide +kernel, by decide⟩
  obtain ⟨c, hc, hblank⟩ := hcolumn
  refine ⟨c, ?_, hblank⟩
  rw [format_eq]
  simp only [String.toList_append, List.mem_append]
  exact .inl (.inl (.inl (.inl (.inl hc))))

/-- **A writer that is closed behind an event tells it**, however the octets have come. -/
theorem exists_close {e : LogEvent} (he : e.level ≠ .debug) {chunks : List (List UInt8)}
    (hchunks : chunks.flatten = (format e).toUTF8.toList) :
    ∃ line, (chunks.foldl Writer.write (.new e.level)).close = some line ∧ Tells line e := by
  have hread : Text.Utf8.decodeLossy ([] ++ (format e).toUTF8.toList) = (format e).toList := by
    rw [List.nil_append, Text.toList_toUTF8, Text.Utf8.decodeLossy_flatMap_utf8EncodeChar]
  obtain ⟨c, hc, hblank⟩ := exists_mem_format e
  have hleft := Text.trimEndChars_ne_nil hc hblank
  refine ⟨⟨method e.level, String.ofList (Text.trimEndChars (format e).toList)⟩, ?_, ?_⟩
  · rw [foldl_write, Writer.new, hchunks, Writer.close, hread]
    exact if_neg (by simpa using hleft)
  · obtain ⟨blanks, hblanks, hformat⟩ := Text.exists_eq_trimEndChars_append (format e).toList
    refine ⟨?_, ⟨blanks, hblanks, ?_⟩, fun d hd => ?_, ?_⟩
    · cases hlevel : e.level with
      | error | warn | info => simp [method]
      | debug => exact absurd hlevel he
    · rw [← format_eq, String.toList_ofList]
      exact hformat
    · rw [String.toList_ofList] at hd
      exact Text.isBlank_of_mem_getLast? hd
    · simpa using hleft

theorem isShown_defaultLevel_iff {e : LogEvent} :
    isShown defaultLevel e = true ↔ e.level ≠ .debug := by
  rw [isShown, defaultLevel]
  cases e.level <;> decide

/-! ## Logs -/

/-- The calls of a console are the events of a log that are not at `debug`, in order and one for
each. -/
def Shows (calls : List Line) (log : List LogEvent) : Prop :=
  List.Forall₂ Tells calls (log.filter fun e => e.level ≠ .debug)

/-- **A console shows its log.** -/
theorem shows_lines (log : List LogEvent) : Shows (lines defaultLevel log) log := by
  induction log with
  | nil => exact .nil
  | cons e log ih =>
    rw [Shows, lines, List.filterMap_cons, line?]
    by_cases he : e.level ≠ .debug
    · have hchunks : [(format e).toUTF8.toList].flatten = (format e).toUTF8.toList := by simp
      obtain ⟨line, hclose, htells⟩ := exists_close he hchunks
      rw [List.foldl_cons, List.foldl_nil] at hclose
      rw [if_pos (isShown_defaultLevel_iff.2 he), hclose,
        List.filter_cons_of_pos (by simpa using he)]
      exact .cons htells ih
    · rw [if_neg (mt isShown_defaultLevel_iff.1 he), List.filter_cons_of_neg (by simpa using he)]
      exact ih

end Console
end Page

/-- What the client remarks does not get to the console. -/
theorem LogEvent.level_of_isRemark {e : LogEvent} (h : e.isRemark = true) : e.level = .debug := by
  cases e <;> first | rfl | cases h

/-- **The console is the log, filtered.**

A page is built with any settings, but none for its console, and shown in any window; it starts,
and then events are handled, each to its end, whatever becomes of the requests.  What goes to the
console for an event is what is logged for it above `debug`: in order, one call for each, to the
method of its level, with its text as it was formatted, without the blanks at the end but with
the line breaks that it may have in the middle.  No call is empty.

That is so as well if the events overlap: then the log of a move is that of its burst, behind
what the client remarks.  And it does not depend on how the text of an event comes to be written,
in one piece or in many. -/
theorem console_is_filtered_log (build : Page.Build) (window : Option Page.Window) :
    let config := (Page.load build window).config
    let browser := Browser.new (Page.Window.disposition window)
    (∃ client, Http.Client.new config = .ok client ∧
      ∀ (fates : Nat → Http.Fate) (events : List Event),
      ∀ p ∈ (client.wire fates).perform config.stale (events.map Event.act) .new browser
        (.new true [], 0),
      Page.Console.Shows (Page.Console.lines Page.Console.defaultLevel p.done.log) p.done.log) ∧
    (∀ (h : History) (s : Session), Run config.stale browser h s →
      ∀ m ∈ h, ∀ remarks : List LogEvent, (∀ e ∈ remarks, e.isRemark = true) →
      Page.Console.Shows
        (Page.Console.lines Page.Console.defaultLevel (remarks ++ m.report.log)) m.report.log) ∧
    ∀ (e : LogEvent) (chunks : List (List UInt8)), e.level ≠ .debug →
      chunks.flatten = (Page.Console.format e).toUTF8.toList →
      ∃ line, (chunks.foldl Page.Console.Writer.write (.new e.level)).close = some line ∧
        Page.Console.Tells line e := by
  intro config browser
  refine ⟨⟨_, Http.Client.new_eq_ok (Page.isValid_load build window), ?_⟩, ?_, ?_⟩
  · intro fates events p _
    exact Page.Console.shows_lines p.done.log
  · intro h s _ m _ remarks hremarks
    have hquiet : remarks.filter (fun e => e.level ≠ .debug) = [] := by
      refine List.filter_eq_nil_iff.2 fun e he => ?_
      simpa using LogEvent.level_of_isRemark (hremarks e he)
    have hshows := Page.Console.shows_lines (remarks ++ m.report.log)
    rw [Page.Console.Shows, List.filter_append, hquiet, List.nil_append] at hshows
    exact hshows
  · intro e chunks he hchunks
    exact Page.Console.exists_close he hchunks

/-- A purchase is declined with a text that has a line break in it and another one at its end: the
answer is logged at `debug`, and the console has one call, with two lines. -/
theorem declined_in_two_lines :
    ∃ (client : Http.Client) (p : Performance (Line × Nat)),
      Http.Client.new
          (Page.load (fun _ => none) (some ⟨some "http://localhost:2424", none⟩)).config =
        .ok client ∧
      (client.wire fun _ =>
          ⟨true, [.http], some ⟨402, none, some "no\nfunds \n".toUTF8.toList⟩, ""⟩).perform
        .apply [Event.act .buy] .new (.new .willing) (.new true [], 0) = [p] ∧
      p.done.log.length = 2 ∧
      Page.Console.Shows (Page.Console.lines Page.Console.defaultLevel p.done.log) p.done.log ∧
      Page.Console.lines Page.Console.defaultLevel p.done.log =
        [⟨"error", "ERROR checker_core::workflow::payment: Payment initiation failed: " ++
          "Payment rejected (status 402): no\nfunds"⟩] := by
  obtain ⟨⟨client, accepted, hshows⟩, -⟩ :=
    console_is_filtered_log (fun _ => none) (some ⟨some "http://localhost:2424", none⟩)
  cases accepted
  refine ⟨_, _, rfl, rfl, ?_, hshows _ [.buy] _ List.mem_cons_self, ?_⟩
  · decide +kernel
  · decide +kernel

end MeteredChecker
