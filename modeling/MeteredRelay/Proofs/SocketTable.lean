import MeteredRelay.Proofs.Text
import MeteredRelay.Traffic.SocketTable

/-!
# The line of a socket

The table of sockets is not the server's own: it has a heading, lines about sockets of other
programs, and whatever a later system may add.  A lookup must neither stop at such a line nor take
its figures from one.

`Names` says which lines count for a socket, and `SocketRow.Writes` how the system writes a line of
its own.  **`lookup_of_lines`** says that the first line that counts decides alone, that no other
line changes the answer wherever it stands, and that every row that the system wrote is found with
its figures.
-/

namespace MeteredRelay

open Text

/-! ## What a line says -/

/-- A socket and what the system tells about it. -/
structure SocketRow where
  inode : UInt64
  queues : SocketQueues

/-- Thirteen columns tell the figures of a row: the fifth the bytes that wait, the tenth the inode
and the last the datagrams dropped.  The other columns may hold anything. -/
structure SocketRow.Columns (row : SocketRow) (cols : List (List Char)) : Prop where
  count : cols.length = 13
  waiting : ∃ tx rx, cols[4]? = some (tx ++ ':' :: rx) ∧
    Spells 16 row.queues.transmit.toNat tx ∧ Spells 16 row.queues.receive.toNat rx
  inode : ∃ text ∈ cols[9]?, Spells 10 row.inode.toNat text
  drops : ∃ text ∈ cols[12]?, Spells 10 row.queues.drops.toNat text

/-- A line of the table is about a row: its columns stand with white space between them. -/
def SocketRow.Writes (row : SocketRow) (line : List Char) : Prop :=
  ∃ cols, Spaced isBlank cols line ∧ row.Columns cols

namespace SocketTable

variable {inode : UInt64} {line : List Char} {cols ls before : List (List Char)}
  {row : SocketRow} {q : SocketQueues}

/-- A line names a socket: it has thirteen columns, and the tenth is the number of the inode. -/
def Names (inode : UInt64) (line : List Char) : Prop :=
  ∃ cols, Spaced isBlank cols line ∧ cols.length = 13 ∧
    ∃ text ∈ cols[9]?, Numeral 10 inode.toNat text

lemma getElem?_eq_some_getD {i : Nat} (h : i < cols.length) : cols[i]? = some (cols.getD i []) := by
  rw [List.getD_eq_getElem?_getD, List.getElem?_eq_getElem h, Option.getD_some]

lemma inode?_eq_some_iff : inode? line = some inode ↔ Names inode line := by
  have hnumber {cols : List (List Char)} (hcount : cols.length = 13) :
      (readUInt64 10 (cols.getD 9 [])).toOption = some inode ↔
        ∃ text ∈ cols[9]?, Numeral 10 inode.toNat text := by
    have hok : (readUInt64 10 (cols.getD 9 [])).toOption = some inode ↔
        readUInt64 10 (cols.getD 9 []) = .ok inode := by
      cases readUInt64 10 (cols.getD 9 []) <;> simp [Except.toOption]
    rw [hok, readUInt64_eq_ok_iff (by decide) (by decide), getElem?_eq_some_getD (by omega)]
    simp
  simp only [Names, ← words_eq_iff, exists_eq_left']
  rw [inode?, columns?, columnCount]
  by_cases hcount : (words line).length = 13
  · rw [if_pos hcount, Option.bind_some, hnumber hcount]
    exact (and_iff_right hcount).symm
  · rw [if_neg hcount]
    exact iff_of_false (by simp) fun h => hcount h.1

instance (inode : UInt64) (line : List Char) : Decidable (Names inode line) :=
  decidable_of_iff _ inode?_eq_some_iff

/-- The figures of a line are read exactly if its columns tell them. -/
lemma queuesOf_eq_ok_iff (hcount : cols.length = 13) : queuesOf cols = .ok q ↔
    (∃ tx rx, cols[4]? = some (tx ++ ':' :: rx) ∧ ':' ∉ tx ∧
      Numeral 16 q.transmit.toNat tx ∧ Numeral 16 q.receive.toNat rx) ∧
    ∃ text ∈ cols[12]?, Numeral 10 q.drops.toNat text := by
  have hcut (tx rx : List Char) : cols[4]? = some (tx ++ ':' :: rx) ∧ ':' ∉ tx ↔
      cutAt ':' (cols.getD 4 []) = some (tx, rx) := by
    rw [cutAt_eq_some_iff, getElem?_eq_some_getD (by omega), Option.some.injEq]
  simp only [← and_assoc, hcut, getElem?_eq_some_getD (show 12 < cols.length by omega),
    ← readUInt64_eq_ok_iff (show 1 < 16 by decide) (show 16 ≤ 16 by decide),
    ← readUInt64_eq_ok_iff (show 1 < 10 by decide) (show 10 ≤ 16 by decide)]
  rw [queuesOf]
  cases cutAt ':' (cols.getD 4 []) with
  | none => simp
  | some parts =>
      obtain ⟨tx, rx⟩ := parts
      obtain ⟨transmit, receive, drops⟩ := q
      simp only [Option.some.injEq, Prod.mk.injEq, and_assoc, exists_and_left, exists_eq_left',
        Option.mem_def]
      cases readUInt64 16 tx with
      | error _ => simp [Except.mapError, bind, Except.bind]
      | ok t =>
          cases readUInt64 16 rx with
          | error _ => simp [Except.mapError, bind, Except.bind]
          | ok r =>
              cases readUInt64 10 (cols.getD 12 []) with
              | error _ => simp [Except.mapError, bind, Except.bind]
              | ok d => simp [Except.mapError, bind, Except.bind, pure, Except.pure]

lemma names_of_writes (h : row.Writes line) : Names row.inode line := by
  obtain ⟨cols, hspaced, hcols⟩ := h
  obtain ⟨text, htext, hspells⟩ := hcols.inode
  exact ⟨cols, hspaced, hcols.count, text, htext, .inl hspells⟩

lemma queuesOf_of_writes (h : row.Writes line) : queuesOf (words line) = .ok row.queues := by
  obtain ⟨cols, hspaced, hcols⟩ := h
  obtain ⟨tx, rx, hwaiting, htx, hrx⟩ := hcols.waiting
  obtain ⟨text, htext, hdrops⟩ := hcols.drops
  have hcolon : ':' ∉ tx := fun hmem => by
    obtain ⟨d, hd⟩ := htx.exists_digit (by decide) (by decide) hmem
    contradiction
  rw [words_eq_iff.mpr hspaced, queuesOf_eq_ok_iff hcols.count]
  exact ⟨⟨tx, rx, hwaiting, hcolon, .inl htx, .inl hrx⟩, text, htext, .inl hdrops⟩

/-! ## Which line is read -/

/-- The lines of a table are searched in order, and the first that names the socket is read. -/
lemma lookupIn_of_names (after : List (List Char)) (hbefore : ∀ l ∈ before, ¬ Names inode l)
    (hline : Names inode line) :
    lookupIn (before ++ line :: after) inode = queuesOf (words line) := by
  have hfound : (before ++ line :: after).find? (inode? · == some inode) = some line := by
    rw [List.find?_eq_some_iff_append]
    refine ⟨by simpa using inode?_eq_some_iff.mpr hline, before, after, rfl, fun l hl => ?_⟩
    simpa [inode?_eq_some_iff] using hbefore l hl
  rw [lookupIn, hfound]

/-- Lines that do not name the socket are passed over, wherever they stand. -/
lemma lookupIn_insert (before after : List (List Char)) {extra : List (List Char)}
    (h : ∀ l ∈ extra, ¬ Names inode l) :
    lookupIn (before ++ (extra ++ after)) inode = lookupIn (before ++ after) inode := by
  have hnone : extra.find? (inode? · == some inode) = none := by
    rw [List.find?_eq_none]
    intro l hl
    simpa [inode?_eq_some_iff] using h l hl
  simp only [lookupIn, List.find?_append, hnone, Option.none_or]

lemma lookupIn_of_not_names (h : ∀ l ∈ ls, ¬ Names inode l) :
    lookupIn ls inode = .error (.missing inode) := by
  have hnone := lookupIn_insert [] [] h
  rwa [List.append_nil] at hnone

/-- Each of the rows that were written is found, if no two of them are about one socket. -/
lemma lookupIn_of_writes {rows : List SocketRow} (h : List.Forall₂ SocketRow.Writes rows ls)
    (hapart : (rows.map SocketRow.inode).Nodup) (hrow : row ∈ rows) :
    lookupIn ls row.inode = .ok row.queues := by
  induction h with
  | nil => contradiction
  | @cons first line rows ls hwrites _ ih =>
      obtain ⟨hfirst, hrest⟩ := List.nodup_cons.mp hapart
      rcases List.mem_cons.mp hrow with rfl | hmem
      · rw [← queuesOf_of_writes hwrites]
        exact lookupIn_of_names ls (List.forall_mem_nil _) (names_of_writes hwrites)
      · have hother : inode? line ≠ some row.inode := fun hline => by
          have hnamed := inode?_eq_some_iff.mpr (names_of_writes hwrites)
          rw [hline, Option.some.injEq] at hnamed
          exact hfirst (List.mem_map.mpr ⟨row, hmem, hnamed⟩)
        rw [lookupIn_cons_of_ne _ hother, ih hrest hmem]

/-- **A lookup depends on one line.**  The first line that names the socket gives the answer, which
is the same in a table of this line alone.  Lines that do not name it may be inserted and deleted
anywhere, and if there are no others, the socket is missing.  In a table of rows that the system
wrote, about different sockets, every row is found with its figures. -/
theorem lookup_of_lines :
    (∀ (inode : UInt64) (table line : List Char) (before after : List (List Char)),
      Broken (before ++ line :: after) table → (∀ l ∈ before, ¬ Names inode l) →
        Names inode line → lookup table inode = lookup line inode) ∧
    (∀ (inode : UInt64) (table table' : List Char) (before extra after : List (List Char)),
      Broken (before ++ (extra ++ after)) table → Broken (before ++ after) table' →
        (∀ l ∈ extra, ¬ Names inode l) → lookup table inode = lookup table' inode) ∧
    (∀ (inode : UInt64) (table : List Char) (ls : List (List Char)), Broken ls table →
      (∀ l ∈ ls, ¬ Names inode l) → lookup table inode = .error (.missing inode)) ∧
    ∀ (rows : List SocketRow) (table : List Char) (ls : List (List Char)), Broken ls table →
      List.Forall₂ SocketRow.Writes rows ls → (rows.map SocketRow.inode).Nodup →
        ∀ row ∈ rows, lookup table row.inode = .ok row.queues := by
  refine ⟨?_, ?_, ?_, ?_⟩
  · intro inode table line before after htable hbefore hline
    have hbreak : '\n' ∉ line := htable.notMem (by simp)
    have hne : line ≠ [] := by
      rintro rfl
      exact nomatch inode?_eq_some_iff.mpr hline
    rw [lookup, lookup, lines_eq_iff.mpr htable, lines_eq_iff.mpr (.last hne hbreak),
      lookupIn_of_names after hbefore hline]
    exact (lookupIn_of_names [] (List.forall_mem_nil _) hline).symm
  · intro inode table table' before extra after htable htable' hextra
    rw [lookup, lookup, lines_eq_iff.mpr htable, lines_eq_iff.mpr htable',
      lookupIn_insert _ _ hextra]
  · intro inode table ls htable hnone
    rw [lookup, lines_eq_iff.mpr htable, lookupIn_of_not_names hnone]
  · intro rows table ls htable hwrites hapart row hrow
    rw [lookup, lines_eq_iff.mpr htable, lookupIn_of_writes hwrites hapart hrow]

/-- A heading and the lines of two sockets. -/
def publishedLines : List (List Char) :=
  ["  sl  address  queues  inode".toList, " 125: a r 7 00:00 t n  101  0 19437 2 p 0".toList,
    " 774: a r 7 00:0A t n 1000  0 88331 2 p 17".toList]

/-- Behind a heading, the second of two sockets is found as in a table of its own, and one that has
no line is missing. -/
theorem lookup_of_lines_second :
    lookup (joinLines publishedLines) 88331 = .ok ⟨0, 10, 17⟩ ∧
      lookup (joinLines publishedLines) 88331 = lookup (publishedLines.getD 2 []) 88331 ∧
      lookup (joinLines publishedLines) 1 = .error (.missing 1) := by
  obtain ⟨hfirst, hothers, hmissing, hrows⟩ := lookup_of_lines
  have htable : Broken publishedLines (joinLines publishedLines) :=
    lines_eq_iff.mp (by decide +kernel)
  have hsocket : Broken (publishedLines.drop 1) (joinLines (publishedLines.drop 1)) :=
    lines_eq_iff.mp (by decide +kernel)
  have hheading := hothers 88331 (joinLines publishedLines) (joinLines (publishedLines.drop 1)) []
    (publishedLines.take 1) (publishedLines.drop 1) htable hsocket (by decide +kernel)
  have hone : SocketRow.Writes ⟨19437, 0, 0, 0⟩ (publishedLines.getD 1 []) :=
    ⟨_, words_eq_iff.mp rfl, by decide +kernel,
      ⟨"00".toList, "00".toList, by decide +kernel, ⟨1, by decide⟩, ⟨1, by decide⟩⟩,
      ⟨"19437".toList, by decide +kernel, 0, by decide⟩,
      ⟨"0".toList, by decide +kernel, 0, by decide⟩⟩
  have htwo : SocketRow.Writes ⟨88331, 0, 10, 17⟩ (publishedLines.getD 2 []) :=
    ⟨_, words_eq_iff.mp rfl, by decide +kernel,
      ⟨"00".toList, "0A".toList, by decide +kernel, ⟨1, by decide⟩, ⟨1, by decide⟩⟩,
      ⟨"88331".toList, by decide +kernel, 0, by decide⟩,
      ⟨"17".toList, by decide +kernel, 0, by decide⟩⟩
  refine ⟨?_, ?_, ?_⟩
  · rw [hheading]
    exact hrows _ _ _ hsocket (.cons hone (.cons htwo .nil)) (by decide) ⟨88331, 0, 10, 17⟩
      (by simp)
  · exact hfirst 88331 _ _ (publishedLines.take 2) [] htable (by decide +kernel) (by decide +kernel)
  · exact hmissing 1 _ _ htable (by decide +kernel)

end SocketTable

end MeteredRelay
