import MeteredRelay.Proofs.Roster.Alike
import MeteredRelay.Proofs.Roster.Ban
import MeteredRelay.Proofs.Roster.Purses

/-!
# What a bind leaves behind

For its peer a bind may be several things at once.  The peer may be new in the session, or known
there on the same connection, or taken over from another one; and in the first and the last case its
connection may have held it in another session, which it then leaves.  All have this in common
(`Lodges`): a binding is settled in its session, and what its connection held elsewhere is cleared
away.  From that it is read off once what has become of each session, each connection and the table.

**`bind_places`** puts this together with what happened to the purses and the bans: after a bind that
succeeded everything about the peer is where it should be (`Places`), it pays with what it paid with
there before and with its new account (`Funds`), and nothing else has moved.
-/

namespace MeteredRelay

namespace Session

variable {n : SessionNo} {s t : Session} {b : Binding} {p : PeerId}

/-! ## One peer and the others -/

/-- The bindings of all peers but one, in their order. -/
def besides (s : Session) (p : PeerId) : List Binding := s.bindings.filter (·.peer ≠ p)

lemma besides_congr (h : s.bindings = t.bindings) : s.besides p = t.besides p := by
  rw [besides, h, besides]

lemma besides_welcome (s : Session) (b : Binding) :
    (s.welcome b).besides b.peer = s.besides b.peer := by
  simp [besides, welcome]

lemma besides_replace (s : Session) (b : Binding) :
    (s.replace b).besides b.peer = s.besides b.peer := by
  simp only [besides, replace, bindings_writeMembers]
  induction s.bindings with
  | nil => rfl
  | cons a bindings ih =>
      rw [List.map_cons]
      by_cases ha : a.peer = b.peer
      · simpa [ha] using ih
      · simpa [ha] using ih

lemma besides_remove (s : Session) (p : PeerId) : (s.remove p).besides p = s.besides p := by
  simp [besides, remove]

/-- A tidy session lists a peer once. -/
lemma Tidy.filter_peer (h : s.Tidy n) (hb : b ∈ s.bindings) :
    s.bindings.filter (·.peer = b.peer) = [b] := by
  have hnodup : s.bindings.Nodup := List.Nodup.of_map _ h.distinct
  refine List.perm_singleton.mp ((List.perm_ext_iff_of_nodup (hnodup.filter _)
    (List.nodup_singleton b)).mpr fun a => ?_)
  simp only [List.mem_filter, decide_eq_true_eq, List.mem_singleton]
  constructor
  · rintro ⟨ha, hp⟩
    exact h.eq_of_peer_eq ha hb hp
  · rintro rfl
    exact ⟨hb, rfl⟩

end Session

namespace Roster

variable {r r' x y : Roster} {n m : SessionNo} {a b old : Binding} {p peer : PeerId}
  {id : SessionId} {link : LinkNo} {g : Grant} {now : Instant} {held : Option Binding} {seat : Seat}

/-! ## What a connection held elsewhere -/

/-- The roster after a peer has left the session in which its connection held it. -/
def clear (r : Roster) (p : PeerId) : (held : Option Binding) → Roster
  | none => r
  | some old => r.remove old.session p

lemma joined_clear : (r.clear p held).joined = r.joined := by
  cases held with
  | none => rfl
  | some old => exact joined_remove

lemma session_clear_of_ne (h : ∀ old, held = some old → m ≠ old.session) :
    (r.clear p held).session m = r.session m := by
  cases held with
  | none => rfl
  | some old => exact session_remove_of_ne (h old rfl)

/-- Only the peer itself has left. -/
lemma besides_clear : ((r.clear p held).session m).besides p = (r.session m).besides p := by
  cases held with
  | none => rfl
  | some old =>
      rw [clear, session, remove, sessions_settle]
      exact session_changeSession_congr (·.besides p) (Session.besides_remove · p) old.session m

lemma notMem_peers_clear (hlt : old.session < r.sessions.size) :
    p ∉ ((r.clear p (some old)).session old.session).peers := by
  rw [clear, session_remove hlt, if_pos rfl, Session.peers_remove]
  simp

/-- Entries of sessions that somebody is in stay, and no others come. -/
lemma get?_table_clear (hlt : ∀ old, held = some old → old.session < r.sessions.size)
    (hm : ((r.clear p held).session m).bindings ≠ []) :
    (r.clear p held).table.get? id = some m ↔ r.table.get? id = some m := by
  cases held with
  | none => rfl
  | some old =>
      have holdlt := hlt old rfl
      rw [clear, session_remove holdlt] at hm
      rw [clear, get?_table_remove holdlt, Option.filter_eq_some_iff, decide_eq_true_eq]
      refine and_iff_left ?_
      rintro ⟨rfl, -, hnil⟩
      exact hm (by rw [if_pos rfl, hnil])

/-! ## A binding that is lodged -/

/-- A binding has settled in its session, which left `y`, and what its connection held of the peer
elsewhere was cleared away. -/
structure Lodges (r r' : Roster) (b : Binding) (y : Roster) : Prop where
  settles : Settles r y b
  besides_eq : ∀ m, (y.session m).besides b.peer = (r.session m).besides b.peer
  sessions : r'.sessions = (y.clear b.peer (r.elsewhere b)).sessions
  table : r'.table = (y.clear b.peer (r.elsewhere b)).table
  joined : r'.joined = (y.clear b.peer (r.elsewhere b)).joined

/-- What settles is about sessions, table and connections. -/
lemma Settles.congr (h : Settles x y b) (hs : r.sessions = x.sessions) (ht : r.table = x.table)
    (hj : r.joined = x.joined) : Settles r y b := by
  have hsess : ∀ m, r.session m = x.session m := session_congr hs
  exact
    { size := by rw [hs]; exact h.size
      table := by rw [ht]; exact h.table
      others := fun m hm => by rw [hsess]; exact h.others m hm
      tidy := h.tidy
      id := by rw [hsess]; exact h.id
      mem := fun a => by rw [hsess]; exact h.mem a
      joined := fun seat a => by rw [hj]; exact h.joined seat a }

lemma bindings_noted (r : Roster) (n m : SessionNo) (p : PeerId) :
    ((r.changeSession n (·.noteMember p)).session m).bindings = (r.session m).bindings :=
  session_changeSession_congr (f := (·.noteMember p)) Session.bindings (fun _ => rfl) n m

/-- A binding that is there already is settled. -/
lemma settles_noteMember (hr : r.Sound) (hb : b ∈ (r.session b.session).bindings) :
    Settles r (r.changeSession b.session (·.noteMember b.peer)) b := by
  refine ⟨size_changeSession, rfl, fun m hm => session_changeSession_of_ne hm, ?_, ?_, ?_, ?_⟩
  · rw [session_changeSession (lt_size_of_mem hb), if_pos rfl]
    exact (hr.tidy _).noteMember (Session.mem_peers.mpr ⟨b, hb, rfl⟩)
  · exact session_changeSession_congr (f := (·.noteMember b.peer)) Session.id (fun _ => rfl) _ _
  · intro a
    rw [bindings_noted]
    constructor
    · intro ha
      by_cases hp : a.peer = b.peer
      · exact .inl ((hr.tidy _).eq_of_peer_eq ha hb hp)
      · exact .inr ⟨ha, hp⟩
    · rintro (rfl | ⟨ha, -⟩)
      · exact hb
      · exact ha
  · intro seat a
    rw [joined_changeSession]
    constructor
    · intro ha
      rcases hr.joined_iff.mp ha with ⟨hmem, hseat⟩
      by_cases hbs : b.seat = seat
      · exact .inl ⟨hbs, hr.eq_of_seat_eq hmem hb (hseat.trans hbs.symm)⟩
      · refine .inr ⟨hbs, ha, ?_⟩
        rintro ⟨hs, hp⟩
        obtain rfl : a = b := (hr.tidy _).eq_of_peer_eq (hs ▸ hmem) hb hp
        exact hbs hseat
    · rintro (⟨rfl, rfl⟩ | ⟨-, ha, -⟩)
      · exact hr.joined_of_mem hb
      · exact ha

lemma elsewhere_of_mem (hr : r.Sound) (hb : b ∈ (r.session b.session).bindings) :
    r.elsewhere b = none := by
  rw [elsewhere]
  show Option.filter _ (r.joined.get? b.seat) = none
  rw [hr.joined_of_mem hb]
  simp

namespace Lodges

/-- Purses and gauges do not matter. -/
lemma congr {x' : Roster} (h : Lodges x x' b y) (hs : r.sessions = x.sessions)
    (ht : r.table = x.table) (hj : r.joined = x.joined) (hs' : r'.sessions = x'.sessions)
    (ht' : r'.table = x'.table) (hj' : r'.joined = x'.joined) : Lodges r r' b y := by
  have hsess : ∀ m, r.session m = x.session m := session_congr hs
  have helse : r.elsewhere b = x.elsewhere b := by rw [elsewhere, hj, elsewhere]
  exact
    { settles := h.settles.congr hs ht hj
      besides_eq := fun m => by rw [hsess]; exact h.besides_eq m
      sessions := by rw [hs', helse]; exact h.sessions
      table := by rw [ht', helse]; exact h.table
      joined := by rw [hj', helse]; exact h.joined }

/-! ### Each kind of bind lodges a binding -/

lemma noteMember (hr : r.Sound) (hb : b ∈ (r.session b.session).bindings) :
    Lodges r (r.changeSession b.session (·.noteMember b.peer)) b
      (r.changeSession b.session (·.noteMember b.peer)) where
  settles := settles_noteMember hr hb
  besides_eq m := Session.besides_congr (bindings_noted r b.session m b.peer)
  sessions := by rw [elsewhere_of_mem hr hb, clear]
  table := by rw [elsewhere_of_mem hr hb, clear]
  joined := by rw [elsewhere_of_mem hr hb, clear]

lemma bindNew (hr : r.SoundBut (some b.session) none) (hlt : b.session < r.sessions.size)
    (hp : b.peer ∉ (r.session b.session).peers) (hc : (r.session b.session).closed = false) :
    Lodges r (r.bindNew b) b ((r.changeSession b.session (·.welcome b)).join b) := by
  have halike : Alike (r.bindNew b)
      (((r.changeSession b.session (·.welcome b)).join b).clear b.peer (r.elsewhere b)) := by
    unfold Roster.bindNew
    dsimp only
    cases r.elsewhere b <;> exact ⟨rfl, rfl, rfl, rfl, rfl⟩
  exact
    { settles := settles_welcome hr hlt hp hc
      besides_eq := session_changeSession_congr (·.besides b.peer)
        (Session.besides_welcome · b) b.session
      sessions := halike.sessions
      table := halike.table
      joined := halike.joined }

lemma takeOver (hr : r.Sound) (hold : old ∈ (r.session b.session).bindings)
    (hp : old.peer = b.peer) (hl : old.link ≠ b.link) :
    Lodges r (r.takeOver old b) b
      (((r.changeSession b.session (·.replace b)).part old).join b) := by
  have halike : Alike (r.takeOver old b)
      ((((r.changeSession b.session (·.replace b)).part old).join b).clear b.peer
        (r.elsewhere b)) := by
    unfold Roster.takeOver
    dsimp only
    rw [elsewhere_part hl]
    cases r.elsewhere b with
    | none => exact ⟨rfl, rfl, rfl, rfl, rfl⟩
    | some other =>
        refine Alike.remove ?_ other.session b.peer
        exact ⟨rfl, rfl, rfl, rfl, rfl⟩
  exact
    { settles := settles_replace hr hold hp
      besides_eq := fun m => by
        rw [session_join, session_part]
        exact session_changeSession_congr (·.besides b.peer) (Session.besides_replace · b)
          b.session m
      sessions := halike.sessions
      table := halike.table
      joined := halike.joined }

/-! ### What is where after it -/

variable (h : Lodges r r' b y)
include h

lemma session_eq : r'.session m = (y.clear b.peer (r.elsewhere b)).session m :=
  session_congr h.sessions m

lemma besides : (r'.session m).besides b.peer = (r.session m).besides b.peer := by
  rw [h.session_eq, besides_clear, h.besides_eq]

lemma session_of_ne (hm : m ≠ b.session)
    (hmoved : ∀ old, r.joined.get? b.seat = some old → m ≠ old.session) :
    r'.session m = r.session m := by
  rw [h.session_eq, session_clear_of_ne fun old hold => hmoved old (elsewhere_eq_some_iff.mp hold).1,
    h.settles.others m hm]

lemma known : r'.joined.get? b.seat = some b := by
  rw [h.joined, joined_clear]
  exact (h.settles.joined b.seat b).mpr (.inl ⟨rfl, rfl⟩)

/-- Another connection forgets the binding whose place was taken, and that only. -/
lemma joined_of_ne (hseat : seat ≠ b.seat) : r'.joined.get? seat = some a ↔
    r.joined.get? seat = some a ∧ ¬ (a.session = b.session ∧ a.peer = b.peer) := by
  rw [h.joined, joined_clear, h.settles.joined]
  simp [hseat.symm]

variable (hr : r.SoundBut (some b.session) none)
include hr

lemma lt_size (hold : r.elsewhere b = some old) : old.session < y.sessions.size :=
  lt_size_of_mem (h.settles.mem_elsewhere hr hold).1

/-- The peer has left the session in which its connection held it. -/
lemma notMem_peers (hold : r.joined.get? b.seat = some old) (hs : old.session ≠ b.session) :
    b.peer ∉ (r'.session old.session).peers := by
  have helse : r.elsewhere b = some old := elsewhere_eq_some_iff.mpr ⟨hold, hs⟩
  rw [h.session_eq, helse]
  exact notMem_peers_clear (h.lt_size hr helse)

/-- The table leads to the sessions that it led to, if somebody is in them. -/
lemma get?_table (hr' : r'.Sound) :
    r'.table.get? id = some m ↔ r.table.get? id = some m ∧ (r'.session m).bindings ≠ [] := by
  have hentry (hne : (r'.session m).bindings ≠ []) :
      r'.table.get? id = some m ↔ r.table.get? id = some m := by
    rw [h.session_eq] at hne
    rw [h.table, get?_table_clear (fun _ => h.lt_size hr) hne, h.settles.table]
  constructor
  · intro hm
    have hne := hr'.ne_nil_of_table hm
    exact ⟨(hentry hne).mp hm, hne⟩
  · rintro ⟨hm, hne⟩
    exact (hentry hne).mpr hm

end Lodges

/-- Every bind that succeeds lodges a binding of the peer on the connection. -/
lemma Binds.lodges (hr : r.Sound) (hr' : Binds r now link peer g r' (.ok n)) :
    ∃ x b y, r.openSession g.session = (x, n) ∧
      (b.peer = peer ∧ b.session = n ∧ b.link = link ∧ b.size = g.size.toNat) ∧
      Lodges (x.changeSession n (·.liftBan peer now)) r' b y := by
  cases hr' with
  | refreshed hn hban hb hs hl =>
      rename_i old
      have hmem := Session.mem_of_find? hb
      obtain rfl : old.session = n := (hr.tidy n).home old hmem
      obtain rfl : old.peer = peer := Session.peer_of_find? hb
      have hlifted : old ∈
          ((r.changeSession old.session (·.liftBan old.peer now)).session old.session).bindings := by
        rwa [bindings_lifted]
      have hlodges := Lodges.noteMember (sound_liftBan hr old.peer now old.session) hlifted
      exact ⟨r, old, _, openSession_of_some hr hn, ⟨rfl, rfl, hl, hs⟩,
        hlodges.congr rfl rfl rfl rfl rfl rfl⟩
  | takenOver hn hban hb hs hl =>
      rename_i old
      have hmem := Session.mem_of_find? hb
      obtain rfl : old.session = n := (hr.tidy n).home old hmem
      obtain rfl : old.peer = peer := Session.peer_of_find? hb
      have hlifted : old ∈
          ((r.changeSession old.session (·.liftBan old.peer now)).session old.session).bindings := by
        rwa [bindings_lifted]
      have hlodges := Lodges.takeOver (b := old.movedTo link g.isAdmin r.purses.size)
        (sound_purses (sound_liftBan hr old.peer now old.session) (r.purses.copy old.purse))
        hlifted rfl hl
      exact ⟨r, old.movedTo link g.isAdmin r.purses.size, _, openSession_of_some hr hn,
        ⟨rfl, rfl, rfl, hs⟩, hlodges.congr rfl rfl rfl rfl rfl rfl⟩
  | welcomed hx hban hp =>
      rename_i x
      obtain ⟨hpend, ht, hc⟩ := sound_openSession hr hx
      have hlodges := Lodges.bindNew
        (b := ⟨peer, n, link, g.size.toNat, g.isAdmin, x.purses.size⟩)
        (sound_purses (sound_liftBan hpend peer now n) x.purses.start) ?_ ?_ ?_
      · exact ⟨x, _, _, hx, ⟨rfl, rfl, rfl, rfl⟩, hlodges.congr rfl rfl rfl rfl rfl rfl⟩
      · exact Nat.lt_of_lt_of_eq (hpend.keyed _ n ht).1 size_changeSession.symm
      · show peer ∉ ((x.changeSession n _).session n).peers
        rwa [Session.peers, bindings_lifted]
      · show ((x.changeSession n _).session n).closed = false
        rw [session_changeSession_congr Session.closed closed_liftBan]
        exact hc

/-! ## Who is where after a bind -/

/-- A bind of a peer on a connection has put the binding `b` into the session `n`, and nothing else
about sessions, connections and ids has changed. -/
structure Places (r r' : Roster) (link : LinkNo) (peer : PeerId) (g : Grant) (n : SessionNo)
    (b : Binding) : Prop where
  /-- The session is the one that the id stood for, or a new one. -/
  opened : r.lookup? g.session = some n ∨ r.lookup? g.session = none ∧ n = r.sessions.size
  found : r'.lookup? g.session = some n
  /-- The session lists the peer once. -/
  only : (r'.session n).bindings.filter (·.peer = peer) = [b]
  known : r'.binding? link peer = some b
  through : b.link = link
  sized : b.size = g.size.toNat
  /-- Another connection through which the peer was bound there forgets it. -/
  released : ∀ old, (r.session n).find? peer = some old → old.link ≠ link →
    r'.binding? old.link peer = none
  /-- The peer has left the session in which its connection held it, and no id stands for that if it
  is empty now. -/
  left : ∀ old, r.binding? link peer = some old → old.session ≠ n →
    (r'.session old.session).find? peer = none ∧
      ((r'.session old.session).bindings = [] → ∀ id, r'.lookup? id ≠ some old.session)
  /-- Any other id stands for what it stood for, unless that is empty now. -/
  entries : ∀ id m, id ≠ g.session →
    (r'.lookup? id = some m ↔ r.lookup? id = some m ∧ (r'.session m).bindings ≠ [])
  /-- Other peers are bound as they were. -/
  others : ∀ m, (r'.session m).besides peer = (r.session m).besides peer
  /-- Nothing at all has changed in a session that the peer neither came to nor left. -/
  sessions : ∀ m, m ≠ n → (∀ old, r.binding? link peer = some old → m ≠ old.session) →
    r'.session m = r.session m
  /-- No other connection comes to know a binding or forgets one. -/
  seats : ∀ seat, seat ≠ ⟨link, peer⟩ →
    (∀ old, (r.session n).find? peer = some old → seat ≠ old.seat) →
    r'.joined.get? seat = r.joined.get? seat

namespace Places

variable (h : Places r r' link peer g n b)
include h

/-- The binding is in its session. -/
lemma mem : b ∈ (r'.session n).bindings ∧ b.peer = peer := by
  have hb : b ∈ (r'.session n).bindings.filter (·.peer = peer) := by
    rw [h.only]
    exact List.mem_singleton_self b
  simpa using hb

/-- The peer came, and nobody else came or went. -/
lemma mem_peers : p ∈ (r'.session n).peers ↔ p = peer ∨ p ∈ (r.session n).peers := by
  have hmem (s : Session) (hp : p ≠ peer) :
      p ∈ s.peers ↔ ∃ a ∈ s.besides peer, a.peer = p := by
    simp only [Session.mem_peers, Session.besides, List.mem_filter, decide_eq_true_eq]
    constructor
    · rintro ⟨a, ha, rfl⟩
      exact ⟨a, ⟨ha, hp⟩, rfl⟩
    · rintro ⟨a, ⟨ha, -⟩, rfl⟩
      exact ⟨a, ha, rfl⟩
  by_cases hp : p = peer
  · rw [hp]
    exact iff_of_true (Session.mem_peers.mpr ⟨b, h.mem⟩) (.inl rfl)
  · rw [hmem _ hp, hmem _ hp, h.others, or_iff_right hp]

end Places

lemma Binds.places (hr : r.Sound) (hr' : Binds r now link peer g r' (.ok n)) :
    ∃ b, Places r r' link peer g n b := by
  have hsound := hr'.sound hr
  obtain ⟨x, b, y, hx, ⟨rfl, rfl, rfl, hsize⟩, hlodges⟩ := hr'.lodges hr
  have hpend := sound_liftBan (sound_openSession hr hx).1 b.peer now b.session
  have hjoined : (x.changeSession b.session (·.liftBan b.peer now)).joined = r.joined :=
    joined_changeSession.trans (joined_openSession hr hx)
  have hknown : r'.joined.get? b.seat = some b := hlodges.known
  have hmem : b ∈ (r'.session b.session).bindings := (hsound.joined_iff.mp hknown).1
  have hlookup (id : SessionId) (m : SessionNo) : r'.lookup? id = some m ↔
      (if g.session = id then some b.session else r.lookup? id) = some m ∧
        (r'.session m).bindings ≠ [] := by
    rw [lookup?, hlodges.get?_table hpend hsound, table_changeSession,
      get?_table_openSession hr hx, lookup?]
  have hseat {seat : Seat} {a : Binding} (hne : seat ≠ b.seat) :
      r'.joined.get? seat = some a ↔
        r.joined.get? seat = some a ∧ ¬ (a.session = b.session ∧ a.peer = b.peer) := by
    rw [hlodges.joined_of_ne hne, hjoined]
  refine ⟨b, ?_⟩
  constructor
  case opened =>
    rcases openSession_cases hr hx with ⟨hn, -⟩ | ⟨hnone, hcreate⟩
    · exact .inl hn
    · exact .inr ⟨hnone, (congrArg Prod.snd hcreate).symm⟩
  case found => exact (hlookup _ _).mpr ⟨if_pos rfl, List.ne_nil_of_mem hmem⟩
  case only => exact (hsound.tidy _).filter_peer hmem
  case known => exact hknown
  case through => rfl
  case sized => exact hsize
  case released =>
    intro old hold hl
    have hthere := hr.binding?_of_find? hold
    rw [Option.eq_none_iff_forall_ne_some]
    intro a ha
    have hne : (⟨old.link, b.peer⟩ : Seat) ≠ b.seat := fun e => hl (congrArg Seat.link e)
    obtain ⟨ha', hother⟩ := (hseat hne).mp ha
    obtain rfl : old = a := Option.some.inj (hthere.symm.trans ha')
    exact hother ⟨(hr.tidy _).home old (Session.mem_of_find? hold), Session.peer_of_find? hold⟩
  case left =>
    intro old hold hs
    refine ⟨Session.find?_eq_none_iff.mpr (hlodges.notMem_peers hpend (hjoined ▸ hold) hs), ?_⟩
    intro hnil id hid
    exact hsound.ne_nil_of_table hid hnil
  case entries =>
    intro id m hid
    rw [hlookup, if_neg hid.symm]
  case others =>
    intro m
    exact hlodges.besides.trans
      (Session.besides_congr ((bindings_lifted x _ m).trans (bindings_openSession hr hx m)))
  case sessions =>
    intro m hm hmoved
    rw [hlodges.session_of_ne hm (hjoined ▸ hmoved), session_changeSession_of_ne hm,
      session_openSession_of_ne hr hx hm]
  case seats =>
    intro seat hne hold
    ext a
    rw [hseat hne, and_iff_left_iff_imp]
    rintro ha ⟨hs, hp⟩
    obtain ⟨hmem, rfl⟩ := hr.joined_iff.mp ha
    refine hold a ?_ rfl
    rw [← hs, ← hp]
    exact (hr.tidy _).find?_eq hmem

/-! ## What is paid with after it -/

/-- Whether an account may not come into a list: it is overdrawn, or its payment is there. -/
def KeptFrom (accounts : Accounts) (ns : List AccountNo) (account : AccountNo) : Prop :=
  accounts.remaining account < 0 ∨ ∃ other ∈ ns, accounts.tag? other = accounts.tag? account

lemma attach_of_keptFrom {accounts : Accounts} {ns : List AccountNo} {account : AccountNo}
    (h : KeptFrom accounts ns account) : accounts.attach ns account = ns := by
  rw [Accounts.attach, ite_eq_left_iff]
  intro hlow
  exact if_pos (by simpa using h.resolve_left hlow)

lemma attach_of_not_keptFrom {accounts : Accounts} {ns : List AccountNo} {account : AccountNo}
    (h : ¬ KeptFrom accounts ns account) : accounts.attach ns account = ns ++ [account] := by
  rw [KeptFrom, not_or] at h
  rw [Accounts.attach, if_neg h.1, if_neg (by simpa using h.2)]

/-- A bind has put its account to those that the binding `b` of the peer in the session `n` pays
with, and nobody else pays with anything new. -/
structure Funds (r r' : Roster) (peer : PeerId) (g : Grant) (n : SessionNo) (b : Binding) :
    Prop where
  ledger : r'.ledger = r.ledger
  /-- The peer pays with what it paid with there before, and then with the account. -/
  added : ¬ KeptFrom r.ledger.accounts (r.accountsOf n peer) g.account →
    r'.accountsOf n peer = r.accountsOf n peer ++ [g.account]
  kept : KeptFrom r.ledger.accounts (r.accountsOf n peer) g.account →
    r'.accountsOf n peer = r.accountsOf n peer
  /-- Every other binding pays with what it paid with. -/
  others : ∀ m, ∀ a ∈ (r'.session m).bindings, a ≠ b →
    r'.purses.accounts a.purse = r.purses.accounts a.purse

lemma Places.funds (h : Places r r' link peer g n b) (hr : r.Sound) (hown : r.OwnPurses)
    (hown' : r'.OwnPurses) (hr' : Binds r now link peer g r' (.ok n)) :
    Funds r r' peer g n b := by
  have hsound := hr'.sound hr
  obtain ⟨hledger, b', hknown, hfills⟩ := hr'.fills hr
  obtain rfl : b = b' := Option.some.inj (h.known.symm.trans hknown)
  have haccounts : r'.accountsOf n peer =
      r.ledger.accounts.attach (r.accountsOf n peer) g.account := by
    obtain ⟨hmem, hp⟩ := h.mem
    rw [accountsOf, ← hp, (hsound.tidy n).find?_eq hmem, hp]
    exact hfills.accounts_self fun old hold =>
      hown.lt_size old.seat old (hr.joined_of_mem (Session.mem_of_find? hold))
  constructor
  case ledger => exact hledger
  case added => exact fun hkept => haccounts.trans (attach_of_not_keptFrom hkept)
  case kept => exact fun hkept => haccounts.trans (attach_of_keptFrom hkept)
  case others =>
    intro m a ha hne
    refine hfills.accounts_of_ne fun hpurse => hne ?_
    exact hown'.eq_of_purse_eq _ _ a b (hsound.joined_of_mem ha) hknown hpurse

/-- **A bind of a reachable roster that succeeds puts everything about its peer where it should be,
and moves nothing else.**  No ban but one of the peer that had ended is lifted. -/
theorem bind_places (env : Environment) (acts : List (Moment × Act)) (now : Instant)
    (link : LinkNo) (peer : PeerId) (g : Grant) (n : SessionNo)
    (hok : ((empty.run env acts).bind now link peer g).2 = .ok n) :
    let r := empty.run env acts
    let r' := (r.bind now link peer g).1
    (∃ b, Places r r' link peer g n b ∧ Funds r r' peer g n b) ∧
      (r.session n).isBanned peer now = false ∧
      ∀ m, (r'.session m).bans =
        if m = n then (r.session m).bans.erase peer else (r.session m).bans := by
  intro r r'
  have hr : r.Sound := sound_run env acts
  have hown : r.OwnPurses := ownPurses_run env acts
  have hown' : r'.OwnPurses := hown.act hr env ⟨now, 0⟩ (.bind link peer g)
  have hbinds : Binds r now link peer g r' (.ok n) := hok ▸ binds_bind hr now link peer g
  obtain ⟨b, hplaces⟩ := hbinds.places hr
  obtain ⟨k, hban, hk, hbans⟩ := (hbinds.bans hr).resolve_left nofun
  obtain rfl := hk n rfl
  exact ⟨⟨b, hplaces, hplaces.funds hr hown hown' hbinds⟩, hban, hbans⟩

/-- A grant of the session that peers with such ids share, on an account. -/
def openGrantOf (peer : PeerId) (account : AccountNo) : Grant :=
  ⟨Admission.openSession peer, 4, true, account⟩

/-- One peer is bound to two sessions through two connections. -/
def twoPlacesRun : List (Moment × Act) :=
  [(noon, .redeem 7 1000 1700000000), (noon, .redeem 8 1000 1700000000),
    (noon, .bind 0 ⟨1⟩ (openGrantOf ⟨1⟩ 0)), (noon, .bind 1 ⟨1⟩ (openGrantOf ⟨65536⟩ 0))]

/-- A bind may take a peer over and move it from another session at once: the peer then pays with
both accounts, and the session that it left is gone. -/
theorem bind_places_taken_over_and_moved :
    let r := empty.run zeroKeyServer twoPlacesRun
    let r' := (r.bind 0 1 ⟨1⟩ (openGrantOf ⟨1⟩ 1)).1
    (∃ b, Places r r' 1 ⟨1⟩ (openGrantOf ⟨1⟩ 1) 0 b ∧ Funds r r' ⟨1⟩ (openGrantOf ⟨1⟩ 1) 0 b) ∧
      r'.binding? 0 ⟨1⟩ = none ∧ r'.accountsOf 0 ⟨1⟩ = [0, 1] ∧
      r'.lookup? (Admission.openSession ⟨65536⟩) = none := by
  intro r r'
  have hplaced := bind_places zeroKeyServer twoPlacesRun 0 1 ⟨1⟩ (openGrantOf ⟨1⟩ 1) 0
    (by decide +kernel)
  exact ⟨hplaced.1, by decide +kernel, by decide +kernel, by decide +kernel⟩

end Roster

end MeteredRelay
