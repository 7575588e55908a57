import MeteredRelay.Proofs.Relay.Conduct
import MeteredRelay.Proofs.Relay.Handshake
import MeteredRelay.Proofs.Relay.Origins
import MeteredRelay.Proofs.Window

/-!
# Datagrams that are processed

A datagram is processed if it opens and the window of its connection accepts its number
(`processedOn?`).  Then it is obeyed or passed on, and otherwise it does nothing to the roster and is
answered by an echo at most (**`processes_receive`**).

What a datagram does to windows is to feed one of them with its number (`window_receive`), and no
other event does anything to them.  So a number that was accepted is barred from then on: the window
of its connection has seen it or left it behind, and only a window that starts again would take it
(**`bars_run`**).
-/

namespace MeteredRelay

namespace Relay

variable {env : Environment} {now : Moment} {r r' x : Relay} {n m : LinkNo} {p : PacketBuffer}
  {address : SocketAddress} {datagram : Bytes} {e : Event} {events : List (Moment × Event)}
  {s : UInt32}

/-! ## Datagrams that are processed -/

/-- The message that a datagram brings, and the connection that it comes from. -/
def message? (env : Environment) (now : Moment) (r : Relay) (address : SocketAddress)
    (datagram : Bytes) : Option (LinkNo × PacketBuffer) :=
  match r.arrive env now address datagram with
  | (x, .message n) =>
    match (x.take datagram).openInput env n datagram with
    | (opened, some _) => some (n, opened.desk.packet)
    | (_, none) => none
  | (_, .consumed) | (_, .repeated _ _) => none

/-- The connection on which a datagram is processed, if it is: the message in it has a header, and
the window of the connection accepts its number. -/
def processedOn? (env : Environment) (now : Moment) (r : Relay) (address : SocketAddress)
    (datagram : Bytes) : Option LinkNo :=
  match r.message? env now address datagram with
  | some (n, p) =>
    if p.hasHeader ∧ ((r.link n).window.accept? p.sequence).isSome then some n else none
  | none => none

lemma exists_of_message? (h : r.message? env now address datagram = some (n, p)) :
    ∃ x opened size, r.arrive env now address datagram = (x, .message n) ∧
      (x.take datagram).openInput env n datagram = (opened, some size) ∧
      opened.desk.packet = p := by
  unfold message? at h
  split at h
  · rename_i x i harrive
    split at h
    · rename_i opened size hopen
      cases h
      exact ⟨x, opened, size, harrive, hopen, rfl⟩
    · contradiction
  · contradiction
  · contradiction

lemma message?_of_opened {opened : Relay} {size : Nat}
    (harrive : r.arrive env now address datagram = (x, .message n))
    (hopen : (x.take datagram).openInput env n datagram = (opened, some size)) :
    r.message? env now address datagram = some (n, opened.desk.packet) := by
  simp only [message?, harrive, hopen]

lemma processedOn?_eq_some_iff : r.processedOn? env now address datagram = some n ↔
    ∃ p, r.message? env now address datagram = some (n, p) ∧ p.hasHeader = true ∧
      ((r.link n).window.accept? p.sequence).isSome = true := by
  unfold processedOn?
  split
  · rename_i i p hmessage
    constructor
    · intro h
      split at h
      · rename_i hboth
        cases h
        exact ⟨p, hmessage, hboth⟩
      · contradiction
    · rintro ⟨q, hq, hboth⟩
      obtain ⟨rfl, rfl⟩ := Prod.mk.inj (Option.some.inj (hmessage.symm.trans hq))
      exact if_pos hboth
  · rename_i hnone
    refine iff_of_false nofun ?_
    rintro ⟨p, hp, -⟩
    rw [hnone] at hp
    contradiction

/-! ## Windows -/

lemma window_arrive {arrival : Arrival}
    (harrive : r.arrive env now address datagram = (r', arrival)) (m : LinkNo) :
    (r'.link m).window = (r.link m).window := by
  cases finds_arrive harrive with
  | established | queued | dropped => rfl
  | completed hn => exact view_changeLink (f := (·.complete)) (fun _ => rfl) r _ m
  | repeated hn => exact view_changeLink (f := (·.penalize 1)) (fun _ => rfl) r _ m
  | founded =>
      exact congrArg Prod.fst (tally_enroll (l := .plain address now.instant) rfl m)

/-- Until the message in a datagram is handled, no window changes. -/
lemma window_opened {opened : Relay} {size : Option Nat}
    (harrive : r.arrive env now address datagram = (x, .message n))
    (hopen : (x.take datagram).openInput env n datagram = (opened, size)) (m : LinkNo) :
    (opened.link m).window = (r.link m).window :=
  ((unread_openInput hopen).window m).trans (window_arrive harrive m)

/-- A message is processed, or nothing is done about it but to count. -/
lemma processes_handle (env : Environment) (now : Moment) (r : Relay) (sender : LinkNo)
    (size : Nat) :
    if r.desk.packet.hasHeader ∧
        ((r.link sender).window.accept? r.desk.packet.sequence).isSome then
      ∃ window, Processes env now (r.note sender window) sender size (r.handle env now sender size)
    else (r.handle env now sender size).roster = r.roster ∧
      (r.handle env now sender size).outbox = r.outbox := by
  have hhandles := handles_handle env now r sender size
  generalize r.handle env now sender size = r' at hhandles ⊢
  cases hhandles with
  | headless hheader =>
      rw [if_neg (by simp [hheader])]
      exact ⟨rfl, rfl⟩
  | skipped _ hwindow =>
      rw [if_neg (by simp [hwindow])]
      exact ⟨rfl, rfl⟩
  | accepted hheader hwindow hprocesses =>
      rw [if_pos ⟨hheader, by simp [hwindow]⟩]
      exact ⟨_, hprocesses⟩

/-- **What is processed is obeyed or passed on**: the message that the datagram brings, on the roster
as it is.  What is not processed does nothing to the roster and is answered by an echo at most. -/
theorem processes_receive (env : Environment) (now : Moment) (r : Relay) (address : SocketAddress)
    (datagram : Bytes) :
    match r.processedOn? env now address datagram with
    | some n => ∃ ready size, ready.roster = r.roster ∧
        r.message? env now address datagram = some (n, ready.desk.packet) ∧
        Processes env now ready n size (r.receive env now address datagram)
    | none => (r.receive env now address datagram).roster = r.roster ∧
        Sends (·.origin = .echo) r (r.receive env now address datagram) := by
  have hreads := reads_receive env now r address datagram
  generalize r.receive env now address datagram = r' at hreads ⊢
  cases hreads with
  | consumed harrive =>
      simp only [processedOn?, message?, harrive]
      have hroster := roster_arrive harrive
      have houtbox := outbox_arrive harrive
      exact ⟨hroster, .of_outbox houtbox⟩
  | repeated harrive =>
      simp only [processedOn?, message?, harrive]
      exact ⟨unread_repeated.roster, unread_repeated.outbox⟩
  | unopened harrive hopen =>
      simp only [processedOn?, message?, harrive, hopen]
      exact ⟨roster_opened harrive hopen, .of_outbox (outbox_opened harrive hopen)⟩
  | handled harrive hopen =>
      rename_i x opened n size
      have hroster := roster_opened harrive hopen
      have houtbox := outbox_opened harrive hopen
      have hread : ((opened.changeLink n (·.noteRead now.instant)).link n).window =
          (r.link n).window := (blames_noteRead.windows n).trans (window_opened harrive hopen n)
      have hpacket : (opened.changeLink n (·.noteRead now.instant)).desk.packet =
          opened.desk.packet := rfl
      have hprocesses := processes_handle env now (opened.changeLink n (·.noteRead now.instant)) n
        size
      rw [hread, hpacket] at hprocesses
      simp only [processedOn?, message?_of_opened harrive hopen]
      split at hprocesses
      · rename_i hboth
        rw [if_pos hboth]
        obtain ⟨window, hprocessed⟩ := hprocesses
        refine ⟨_, size, ?_, ?_, hprocessed⟩
        · exact hroster
        · rfl
      · rename_i hnot
        rw [if_neg hnot]
        exact ⟨hprocesses.1.trans hroster, .of_outbox (hprocesses.2.trans houtbox)⟩

/-- What a message does to the windows: that of its connection is fed with its number. -/
lemma window_handle {sender : LinkNo} {size : Nat} (hsender : sender < r.links.size) (m : LinkNo) :
    ((r.handle env now sender size).link m).window =
      if m = sender ∧ r.desk.packet.hasHeader = true then
        (r.link m).window.feed r.desk.packet.sequence
      else (r.link m).window := by
  have hhandles := handles_handle env now r sender size
  generalize r.handle env now sender size = r' at hhandles ⊢
  cases hhandles with
  | headless hheader =>
      rw [if_neg fun h => by rw [hheader] at h; exact Bool.false_ne_true h.2]
      exact (blames_penalize hsender).windows m
  | skipped hheader hwindow =>
      split
      · rename_i hm
        rw [hm.1, PackedWindow.feed, hwindow, Option.getD_none]
        rfl
      · rfl
  | accepted hheader hwindow hprocesses =>
      rename_i window
      have hnoted : (r.note sender window).links.size = r.links.size := keeps_note.size
      obtain ⟨k, -, hblames⟩ := blames_processes hprocesses (by rwa [hnoted])
      rw [hblames.windows m]
      by_cases hm : m = sender
      · rw [if_pos ⟨hm, hheader⟩, hm, PackedWindow.feed, hwindow, Option.getD_some, note,
          link_changeLink_self hsender]
      · rw [if_neg fun h => hm h.1, note, link_changeLink_of_ne hm]

/-- What a datagram does to the windows. -/
lemma window_receive (hr : r.Orderly) (m : LinkNo) :
    ((r.receive env now address datagram).link m).window =
      match r.message? env now address datagram with
      | some (n, p) =>
        if m = n ∧ p.hasHeader = true then (r.link m).window.feed p.sequence
        else (r.link m).window
      | none => (r.link m).window := by
  have hreads := reads_receive env now r address datagram
  generalize r.receive env now address datagram = r' at hreads ⊢
  cases hreads with
  | consumed harrive =>
      simp only [message?, harrive]
      exact window_arrive harrive m
  | repeated harrive =>
      simp only [message?, harrive]
      exact unread_repeated.window m
  | unopened harrive hopen =>
      simp only [message?, harrive, hopen]
      exact window_opened harrive hopen m
  | handled harrive hopen =>
      rename_i x opened n size
      rw [message?_of_opened harrive hopen]
      have hlt : n < (opened.changeLink n (·.noteRead now.instant)).links.size := by
        have hkeeps := (keeps_openInput hopen).trans
          (keeps_changeLink (n := n) (f := (·.noteRead now.instant)))
        rw [hkeeps.size]
        exact (hr.arrive harrive).2 n rfl
      have hread (i : LinkNo) : ((opened.changeLink n (·.noteRead now.instant)).link i).window =
          (r.link i).window := (blames_noteRead.windows i).trans (window_opened harrive hopen i)
      rw [window_handle hlt, hread]
      rfl

/-! ## Windows that start again -/

/-- Whether an event makes a window start again. -/
def wrapsAt (env : Environment) (now : Moment) (r : Relay) : Event → Bool
  | .datagram address datagram =>
    match r.message? env now address datagram with
    | some (n, p) => p.hasHeader && (r.link n).window.window.wraps p.sequence
    | none => false
  | _ => false

/-- Whether a window starts again in the course of a run. -/
def wrapsIn (env : Environment) (r : Relay) : List (Moment × Event) → Bool
  | [] => false
  | e :: es => r.wrapsAt env e.1 e.2 || (r.step env e.1 e.2).wrapsIn env es

lemma wrapsIn_cons_eq_false {t : Moment} : r.wrapsIn env ((t, e) :: events) = false ↔
    r.wrapsAt env t e = false ∧ (r.step env t e).wrapsIn env events = false := by
  rw [wrapsIn, Bool.or_eq_false_iff]

lemma wrapsIn_append {more : List (Moment × Event)} : r.wrapsIn env (events ++ more) =
    (r.wrapsIn env events || (r.run env events).wrapsIn env more) := by
  induction events generalizing r with
  | nil => rfl
  | cons e es ih => rw [List.cons_append, wrapsIn, ih, wrapsIn, run_cons, Bool.or_assoc]

/-- A number that a window has barred is one that a connection refuses. -/
def Bars (r : Relay) (n : LinkNo) (s : UInt32) : Prop := (r.link n).window.window.Barred s

/-- Feeding a window that does not start again keeps its bars. -/
lemma barred_feed {w : PackedWindow} {t : UInt32} (h : w.window.Barred s)
    (hwraps : w.window.wraps t = false) : (w.feed t).window.Barred s := by
  rw [PackedWindow.window_feed, Window.feed]
  cases ht : w.window.accept? t with
  | none => exact h
  | some w' => exact h.accept? ht hwraps

lemma bars_step (hr : r.Orderly) (h : r.Bars n s) (hwraps : r.wrapsAt env now e = false) :
    (r.step env now e).Bars n s := by
  by_cases he : ∃ address datagram, e = .datagram address datagram
  · rcases he with ⟨address, datagram, rfl⟩
    rw [Bars, step, window_receive hr]
    rw [wrapsAt] at hwraps
    split
    · rename_i i p hmessage
      rw [hmessage] at hwraps
      split
      · rename_i hn
        refine barred_feed h ?_
        rw [hn.1]
        simpa [hn.2] using hwraps
      · exact h
    · exact h
  · have hwindow : ((r.step env now e).link n).window = (r.link n).window :=
      congrArg Prod.fst (tally_step (fun address datagram h => he ⟨address, datagram, h⟩) n)
    rw [Bars, hwindow]
    exact h

/-- **What a window has barred stays so** as long as no window starts again. -/
theorem bars_run (hr : r.Orderly) (h : r.Bars n s) (hwraps : r.wrapsIn env events = false) :
    (r.run env events).Bars n s := by
  induction events generalizing r with
  | nil => exact h
  | cons e es ih =>
      obtain ⟨hfirst, hrest⟩ := wrapsIn_cons_eq_false.mp hwraps
      exact ih (hr.step e.2) (bars_step hr h hfirst) hrest

/-- A number that was accepted is barred. -/
lemma bars_of_processed (hr : r.Orderly) (hmessage : r.message? env now address datagram = some (n, p))
    (hheader : p.hasHeader = true) (haccepted : ((r.link n).window.accept? p.sequence).isSome = true) :
    (r.step env now (.datagram address datagram)).Bars n p.sequence := by
  obtain ⟨window, hwindow⟩ := Option.isSome_iff_exists.mp haccepted
  rw [Bars, step, window_receive hr, hmessage]
  dsimp only
  rw [if_pos ⟨rfl, hheader⟩, PackedWindow.feed, hwindow, Option.getD_some]
  exact Window.barred_of_accept? (PackedWindow.window_of_accept? hwindow)

end Relay

end MeteredRelay
