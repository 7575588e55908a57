import MeteredRelay.Proofs.PacketBuffer
import MeteredRelay.Proofs.Relay.Arrival
import MeteredRelay.Proofs.Relay.Obeying
import MeteredRelay.Proofs.Roster.Orderly

/-!
# What a relay does to its roster

A relay changes its roster by acts only, and for each event they are of a certain kind
(**`performs_step`**).  Upkeep binds nobody, rotates nothing and charges nothing (`Routine`).  A
datagram may bring a message from a connection, and then the acts are those that the message asks
for (`Asks`): a bind on this connection of the peer that the message is from, for what its cookie
grants, a rotation by its cookie, a charge of no more than a message.

Between events and acts there are only the connections: messages are handled without making one or
giving one an address (`Performs.size`, `Performs.addresses`).
-/

namespace MeteredRelay

namespace Roster

/-- A roster becomes another by acts of a kind at one moment. -/
def Performs (env : Environment) (now : Moment) (kind : Act → Prop) (r r' : Roster) : Prop :=
  ∃ acts : List Act, (∀ a ∈ acts, kind a) ∧ r' = r.run env (acts.map (now, ·))

namespace Performs

variable {env : Environment} {now : Moment} {kind more : Act → Prop} {r r' r'' : Roster} {a : Act}

lemma refl (r : Roster) : Performs env now kind r r := ⟨[], nofun, rfl⟩

lemma single (h : kind a) : Performs env now kind r (r.act env now a) :=
  ⟨[a], by simpa using h, rfl⟩

/-- Acts of a kind and then more of it are acts of this kind. -/
lemma trans (h : Performs env now kind r r') (h' : Performs env now kind r' r'') :
    Performs env now kind r r'' := by
  rcases h with ⟨as, has, rfl⟩
  rcases h' with ⟨bs, hbs, rfl⟩
  refine ⟨as ++ bs, List.forall_mem_append.mpr ⟨has, hbs⟩, ?_⟩
  rw [List.map_append, run_append]

lemma mono (h : Performs env now kind r r') (hmore : ∀ a, kind a → more a) :
    Performs env now more r r' :=
  let ⟨acts, hacts, heq⟩ := h
  ⟨acts, fun a ha => hmore a (hacts a ha), heq⟩

/-- What each act keeps is kept. -/
lemma keeps {P : Roster → Prop} (h : Performs env now kind r r')
    (hstep : ∀ {r} a, kind a → P r → P (r.act env now a)) (hr : P r) : P r' := by
  rcases h with ⟨acts, hacts, rfl⟩
  induction acts generalizing r with
  | nil => exact hr
  | cons a as ih =>
      rcases List.forall_mem_cons.mp hacts with ⟨ha, has⟩
      exact ih (hstep a ha hr) has

end Performs

end Roster

namespace Relay

variable {r r' r'' : Relay} {env : Environment} {now : Moment} {n caller sender : LinkNo}
  {peer : PeerId} {cookie : Bytes} {size : Nat} {p : PacketBuffer}
  {kind more : Roster.Act → Prop} {a : Roster.Act} {e : Event}

/-- A relay changes its roster by acts of a kind, and it neither makes a connection nor gives one an
address. -/
structure Performs (env : Environment) (now : Moment) (kind : Roster.Act → Prop) (r r' : Relay) :
    Prop where
  roster : Roster.Performs env now kind r.roster r'.roster
  size : r'.links.size = r.links.size
  addresses : r'.addresses = r.addresses

/-- A relay that keeps its roster performs no act at all. -/
lemma Keeps.performs (h : Keeps r r') : Performs env now kind r r' :=
  ⟨by rw [h.roster]; exact .refl _, h.size, h.addresses⟩

namespace Performs

lemma refl (r : Relay) : Performs env now kind r r := (Keeps.refl r).performs

lemma trans (h : Performs env now kind r r') (h' : Performs env now kind r' r'') :
    Performs env now kind r r'' :=
  ⟨h.roster.trans h'.roster, h'.size.trans h.size, h'.addresses.trans h.addresses⟩

/-- What only sends may follow: it adds no act. -/
lemma keeps (h : Performs env now kind r r') (h' : Keeps r' r'') : Performs env now kind r r'' :=
  h.trans h'.performs

lemma mono (h : Performs env now kind r r') (hmore : ∀ a, kind a → more a) :
    Performs env now more r r' :=
  { h with roster := h.roster.mono hmore }

/-- What every step of a loop performs, the loop performs. -/
lemma foldl {α : Type} {step : Relay → α → Relay}
    (h : ∀ r a, Performs env now kind r (step r a)) (l : List α) (r : Relay) :
    Performs env now kind r (l.foldl step r) := by
  induction l generalizing r with
  | nil => exact refl r
  | cons a l ih => exact (h r a).trans (ih _)

end Performs

lemma performs_act (ha : kind a) :
    Performs env now kind r (r.setRoster (r.roster.act env now a)) :=
  ⟨.single ha, rfl, rfl⟩

/-! ## Commands -/

/-- A message asks for nothing that does not fit the connections. -/
lemma Asks.fits {links : Nat} (h : Asks env now caller p a) (hcaller : caller < links) :
    a.Fits links := by
  cases a with
  | bind link peer g => exact h.1 ▸ hcaller
  | charge purse amount => exact h
  | _ => trivial

/-- To redeem a cookie is one act, or none where the cookie is refused. -/
lemma performs_redeemed : Performs env now (Bids env now caller p) r
    (r.grant env now peer cookie).1 := by
  refine ⟨?_, rfl, rfl⟩
  show Roster.Performs env now (Bids env now caller p) r.roster
    (r.roster.grant env now (env.tag r.tagsDrawn) peer cookie).1
  rcases Roster.grant_eq_act env now (env.tag r.tagsDrawn) r.roster peer cookie with
    heq | ⟨_, _, _, heq⟩
  · rw [heq]
    exact .refl _
  · rw [heq]
    exact .single ⟨trivial, nofun⟩

/-- Three of the things that are done about a command leave the roster alone. -/
lemma performs_deed (h : Deed env now caller p r r') :
    Performs env now (Bids env now caller p) r r' := by
  cases h with
  | noted => exact keeps_changeLink.performs
  | ponged => exact (keeps_setPacket.trans keeps_reply).performs
  | redeemed => exact performs_redeemed
  | acted a hbids => exact performs_act hbids
  | kicked =>
      rename_i held target banSeconds _
      have hact : Bids env now caller p (.kick caller p.source target banSeconds) := ⟨trivial, nofun⟩
      exact (performs_act hact).keeps keeps_sendCommand
  | sent => exact keeps_sendCommand.performs

/-- A command performs the acts that it asks for. -/
lemma performs_obey (env : Environment) (now : Moment) (caller : LinkNo) (r : Relay) :
    Performs env now (Bids env now caller r.desk.packet) r (r.obey env now caller).1 :=
  (deeds_obey env now r caller).induction (.refl r) fun hdeed h => h.trans (performs_deed hdeed)

/-! ## Messages -/

/-- The price of a message is its size. -/
lemma toInt_price (h : size ≤ maxMessageSize) : (price size).toInt = size := by
  have hmax : maxMessageSize = 65536 := rfl
  exact Int64.toInt_ofNat_of_lt (by omega)

/-- A message that is passed on is charged once, for at least one byte and no more than a message
has. -/
lemma performs_forward {b : Binding} (hlow : headerSize ≤ size) (hhigh : size ≤ maxMessageSize) :
    Performs env now (Asks env now caller p) r (r.forward env sender b size) := by
  have hamount : 1 ≤ (price size).toInt ∧ (price size).toInt ≤ Till.largestCharge := by
    rw [toInt_price hhigh]
    simp only [headerSize, maxMessageSize, Till.largestCharge] at *
    omega
  exact (performs_act (a := .charge b.purse (price size)) hamount).keeps keeps_forward

lemma performs_processes (hheader : r.desk.packet.hasHeader = true)
    (hsize : size = r.desk.packet.size) (h : Processes env now r sender size r') :
    Performs env now (Asks env now sender r.desk.packet) r r' := by
  have hobey := (performs_obey env now sender r).mono fun _ h => h.1
  cases h with
  | obeyed _ heq =>
      rw [heq] at hobey
      exact hobey
  | disobeyed _ heq =>
      rw [heq] at hobey
      exact hobey.keeps keeps_penalize
  | unbound => exact keeps_penalize.performs
  | forwarded =>
      refine performs_forward ?_ ?_
      · rw [hsize]
        exact of_decide_eq_true hheader
      · exact hsize ▸ r.desk.packet.size_le

/-- A message that has no header or whose number is refused asks for nothing. -/
lemma performs_handle (hsize : size = r.desk.packet.size) :
    Performs env now (Asks env now sender r.desk.packet) r (r.handle env now sender size) := by
  have hhandles := handles_handle env now r sender size
  generalize r.handle env now sender size = r' at hhandles ⊢
  cases hhandles with
  | headless => exact keeps_penalize.performs
  | skipped => exact Keeps.performs ⟨rfl, rfl, rfl⟩
  | accepted hheader _ hprocesses =>
      rename_i window _
      exact keeps_note.performs.trans
        (performs_processes (r := r.note sender window) hheader hsize hprocesses)

/-! ## Datagrams -/

/-- The size of a message that was opened is that of the message on the desk. -/
lemma size_openInput {input : Bytes} (hopen : r.openInput env n input = (r', some size)) :
    size = r'.desk.packet.size := by
  unfold openInput at hopen
  split at hopen
  · split at hopen
    · rename_i p hp
      cases hopen
      exact (PacketBuffer.size_load hp).symm
    · cases hopen
  · split at hopen
    · cases hopen
    · dsimp only at hopen
      split at hopen
      · rename_i u hopened
        cases hopen
        exact (PacketBuffer.size_loadSealed hopened).symm
      · cases hopen

/-- Finding the connection of a datagram does nothing to the roster. -/
lemma roster_arrive {address : SocketAddress} {input : Bytes} {arrival : Arrival}
    (harrive : r.arrive env now address input = (r', arrival)) : r'.roster = r.roster := by
  cases arrives_arrive harrive with
  | known _ hkeeps | new _ hkeeps | waits hkeeps => exact hkeeps.roster

/-- A datagram is found to come from a connection and is opened: `p` is the message in it. -/
inductive Brings (env : Environment) (now : Moment) (r : Relay) :
    Event → LinkNo → PacketBuffer → Prop where
  | intro {arrived opened : Relay} {address : SocketAddress} {datagram : Bytes} {n : LinkNo}
      {size : Nat}
      (harrive : (r.take datagram).arrive env now address
        ((r.take datagram).desk.raw.take datagram.length) = (arrived, .message n))
      (hopen : arrived.openInput env n ((r.take datagram).desk.raw.take datagram.length) =
        (opened, some size)) :
      Brings env now r (.datagram address datagram) n opened.desk.packet

/-- The acts of upkeep. -/
def Routine : Roster.Act → Prop
  | .bind .. | .rotate .. | .charge .. => False
  | _ => True

/-- The acts that an event may have for its relay: those of upkeep, and those that a message asks
for. -/
def Due (env : Environment) (now : Moment) (r : Relay) (e : Event) (a : Roster.Act) : Prop :=
  Routine a ∨ ∃ n p, Brings env now r e n p ∧ Asks env now n p a

/-- A datagram performs what the message in it asks for, and nothing if none is opened. -/
lemma performs_receive (env : Environment) (now : Moment) (r : Relay) (address : SocketAddress)
    (datagram : Bytes) : Roster.Performs env now (Due env now r (.datagram address datagram))
      r.roster (r.receive env now address datagram).roster := by
  have hreceives := receives_receive env now r address datagram
  generalize r.receive env now address datagram = r' at hreceives ⊢
  cases hreceives with
  | ends harrive hkeeps =>
      rw [hkeeps.roster, roster_arrive harrive]
      exact .refl _
  | handles harrive hopen =>
      rename_i arrived opened n size
      have hopened : opened.roster = r.roster :=
        (keeps_openInput hopen).roster.trans (roster_arrive (r := r.take datagram) harrive)
      have hsize := size_openInput hopen
      have hhandle : Performs env now (Asks env now n opened.desk.packet) _ _ :=
        performs_handle (r := opened.changeLink n (·.noteRead now.instant)) hsize
      rw [← hopened]
      exact hhandle.roster.mono fun a ha => .inr ⟨n, _, .intro harrive hopen, ha⟩

lemma roster_greet (env : Environment) (r : Relay) : (r.greet env).roster = r.roster := by
  have hgreets := greets_greet env r
  generalize r.greet env = r' at hgreets ⊢
  cases hgreets with
  | answers hkeeps | begins _ hkeeps => exact hkeeps.roster

/-! ## Upkeep -/

/-- Each connection that a sweep drops is an act of its own: all of its peers leave. -/
lemma performs_sweep (hroutine : ∀ link, kind (.leaveAll link)) :
    Roster.Performs env now kind r.roster (r.sweep env now.instant).1.roster := by
  refine sweep_induction (motive := fun x => Roster.Performs env now kind r.roster x.roster)
    (fun x address hx => hx.trans ?_) (.refl _)
  have hdrops := drops_dropLink x address
  generalize x.dropLink address = x' at hdrops ⊢
  cases hdrops with
  | none => exact .refl _
  | some _ hroster =>
      rw [hroster]
      exact .single (a := .leaveAll _) (hroutine _)

lemma performs_list {spacing : Span} (hroutine : kind (.markListed n spacing)) :
    Performs env now kind r (list env now.instant spacing r n) := by
  have ht : Performs env now kind r (r.takeListing n now.instant spacing).1 :=
    performs_act (a := .markListed n spacing) hroutine
  simp only [list]
  split <;> rename_i heq <;> rw [heq] at ht
  · exact ht.keeps keeps_sendListing
  · exact ht

lemma performs_listAll : Performs env now Routine r (r.listAll env now.instant) :=
  Performs.foldl (fun _ _ => performs_list trivial) _ _

lemma performs_forgetPayments (env : Environment) (now : Moment) :
    Performs env now Routine r (r.forgetPayments now) :=
  performs_act (a := .forgetPayments) trivial

lemma performs_takeForced (env : Environment) (now : Moment) :
    Performs env now Routine r (r.takeForced env) := by
  simp only [takeForced]
  split
  · rename_i n rest _ hforced
    have ht : Roster.Performs env now Routine r.roster { r.roster with forced := rest } := by
      rw [show rest = r.roster.forced.tail by rw [hforced]; rfl]
      exact .single (a := .takeForced) trivial
    exact ⟨ht, rfl, rfl⟩
  · exact .refl r

lemma performs_listForced : Performs env now Routine r (r.listForced env now.instant) := by
  simp only [listForced]
  split
  · exact .refl r
  · have hnone : Keeps r { r with nextListing := none } := ⟨rfl, rfl, rfl⟩
    exact hnone.performs.trans (performs_list trivial)

/-- **To the roster, an event is a few acts that are due for it.** -/
theorem performs_step (env : Environment) (now : Moment) (r : Relay) (e : Event) :
    Roster.Performs env now (Due env now r e) r.roster (r.step env now e).roster := by
  have hupkeep (x : Roster) (h : Roster.Performs env now Routine r.roster x) :
      Roster.Performs env now (Due env now r e) r.roster x := h.mono fun _ => .inl
  cases e with
  | datagram sender data => exact performs_receive env now r sender data
  | greet =>
      rw [step, roster_greet]
      exact .refl _
  | sweep => exact hupkeep _ (performs_sweep fun _ => trivial)
  | forgetPayments => exact hupkeep _ (performs_forgetPayments env now).roster
  | listAll => exact hupkeep _ performs_listAll.roster
  | takeForced => exact hupkeep _ (performs_takeForced env now).roster
  | listForced => exact hupkeep _ performs_listForced.roster

end Relay

end MeteredRelay
