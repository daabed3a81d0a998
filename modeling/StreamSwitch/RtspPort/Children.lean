import StreamSwitch.Lib.Run
import Mathlib.Data.List.Nodup

/-!
# Child processes of the RTSP server

The list of clients of `network/rtp_port.c` and the callbacks of `network/rtsp_client.c` that change
it in the parent: a connection that comes in, for which a process is forked, and the end of a child
process, be it one of a connection or not.
-/

namespace StreamSwitch

namespace Children

/-- `client_port_pair`. -/
structure ClientPortPair where
  pid : Int
  host : List Char
  port : UInt16
deriving DecidableEq, Repr

/-- `child_head` and the `connection_count` of `struct feng`. -/
structure Feng where
  childHead : List ClientPortPair := []
  connectionCount : UInt64 := 0
deriving DecidableEq, Repr

def addClientList (f : Feng) (client : ClientPortPair) : Feng :=
  { f with childHead := f.childHead ++ [client] }

def reduceClientList (f : Feng) (client : ClientPortPair) : Feng :=
  { f with childHead := f.childHead.erase client }

/-- The loop of `get_client_list_item`, with the `client` that it leaves. -/
def findClient (pid : Int) : Option ClientPortPair → List ClientPortPair → Option ClientPortPair
  | client, [] => client
  | _, c :: cs => if c.pid = pid then some c else findClient pid (some c) cs

def getClientListItem (f : Feng) (pid : Int) : Option ClientPortPair :=
  findClient pid none f.childHead

/-- `child_terminate_cb`. -/
def childTerminateCb (f : Feng) (pid : Int) : Feng :=
  match getClientListItem f pid with
  | some client =>
    let f := reduceClientList f client
    { f with connectionCount := f.connectionCount - 1 }
  | none => f

/-- A socket from `Sock_accept`. -/
structure Connection where
  host : List Char
  port : UInt16
deriving DecidableEq, Repr

/-- Whether `rtsp_client_incoming_cb` comes to its `fork`, where `limit` is
`ONE_FORK_MAX_CONNECTION`. -/
def forks (limit : UInt64) (f : Feng) (sock : Option Connection) : Bool :=
  sock.isSome && !decide (f.connectionCount ≥ limit)

/-- `rtsp_client_incoming_cb` in the parent, with what `fork` returns. -/
def rtspClientIncomingCb (limit : UInt64) (f : Feng) (sock : Option Connection) (pid : Int) : Feng :=
  match sock with
  | none => f
  | some sock =>
    if f.connectionCount ≥ limit then f
    else if pid > 0 then
      addClientList { f with connectionCount := f.connectionCount + 1 } ⟨pid, sock.host, sock.port⟩
    else f

/-! ## Runs of the parent -/

/-- The parent, and the children that were forked for connections and are not reaped. -/
structure Server where
  parent : Feng := {}
  children : List Int := []
deriving DecidableEq, Repr

inductive Event
  | incoming (sock : Option Connection) (pid : Int)
  | terminated (pid : Int)
deriving DecidableEq, Repr

/-- A step of the parent. To the parent, `fork` does not return 0, nor the id of a child that is not
reaped. -/
def step (limit : UInt64) (s : Server) : Event → Option Server
  | .incoming sock pid =>
    if forks limit s.parent sock then
      if pid = 0 ∨ pid ∈ s.children then none
      else some
        { parent := rtspClientIncomingCb limit s.parent sock pid
          children := if pid > 0 then s.children ++ [pid] else s.children }
    else some { s with parent := rtspClientIncomingCb limit s.parent sock pid }
  | .terminated pid =>
    some { parent := childTerminateCb s.parent pid, children := s.children.erase pid }

/-- One entry for each child of a connection, and none for others. -/
structure Consistent (s : Server) : Prop where
  entries : ∀ pid, (s.parent.childHead.map ClientPortPair.pid).count pid =
    if pid ∈ s.children then 1 else 0
  counted : s.parent.connectionCount.toNat = s.parent.childHead.length

/-- What a step is to do: the bookkeeping is right behind it, and no other client is removed. -/
def Bookkept (limit : UInt64) (s : Server) (e : Event) : Prop :=
  ∀ s', step limit s e = some s' → Consistent s' ∧
    ∀ pid, e = .terminated pid → ∀ c ∈ s.parent.childHead, c.pid ≠ pid → c ∈ s'.parent.childHead

/-- A child that ends is one of a connection, or there is none of a connection. -/
def OwnChild (s : Server) (e : Event) : Prop :=
  ∀ pid, e = .terminated pid → pid ∈ s.children ∨ s.children = []

/-! ## The list -/

variable {limit : UInt64} {s s' : Server} {e : Event} {f : Feng} {pid : Int}
  {c client : ClientPortPair} {cs : List ClientPortPair}

theorem findClient_eq (pid : Int) (client : Option ClientPortPair) (cs : List ClientPortPair) :
    findClient pid client cs =
      (cs.find? fun c => c.pid = pid).or (cs.getLast?.or client) := by
  induction cs generalizing client with
  | nil => rfl
  | cons c cs ih =>
    unfold findClient
    by_cases h : c.pid = pid
    · rw [if_pos h, List.find?_cons_of_pos (by simpa using h), Option.some_or]
    · rw [if_neg h, ih, List.find?_cons_of_neg (by simpa using h), List.getLast?_cons, Option.some_or]
      cases cs.getLast? with
      | none => rfl
      | some last => rfl

/-- A client of the list is found by its id. -/
theorem getClientListItem_of_mem (h : pid ∈ f.childHead.map ClientPortPair.pid) :
    ∃ client ∈ f.childHead, client.pid = pid ∧ getClientListItem f pid = some client := by
  have hsome : (f.childHead.find? fun c => c.pid = pid).isSome := by
    obtain ⟨c, hc, rfl⟩ := List.mem_map.1 h
    rw [List.find?_isSome]
    exact ⟨c, hc, decide_eq_true rfl⟩
  obtain ⟨client, hclient⟩ := Option.isSome_iff_exists.1 hsome
  refine ⟨client, List.mem_of_find?_eq_some hclient, ?_, ?_⟩
  · simpa using List.find?_some hclient
  · unfold getClientListItem
    rw [findClient_eq, hclient, Option.some_or]

/-- Where there is no such client, the last one of the list comes back. -/
theorem getClientListItem_of_not_mem (h : pid ∉ f.childHead.map ClientPortPair.pid) :
    getClientListItem f pid = f.childHead.getLast? := by
  have hnone : f.childHead.find? (fun c => c.pid = pid) = none := by
    rw [List.find?_eq_none]
    intro c hc hpid
    exact h (List.mem_map.2 ⟨c, hc, by simpa using hpid⟩)
  unfold getClientListItem
  rw [findClient_eq, hnone, Option.none_or, Option.or_none]

theorem map_pid_erase (hnodup : (cs.map ClientPortPair.pid).Nodup) (hc : c ∈ cs) :
    (cs.erase c).map ClientPortPair.pid = (cs.map ClientPortPair.pid).erase c.pid := by
  induction cs with
  | nil => cases hc
  | cons d ds ih =>
    rw [List.map_cons, List.nodup_cons] at hnodup
    by_cases h : d = c
    · subst h
      rw [List.erase_cons_head, List.map_cons, List.erase_cons_head]
    · have hmem : c ∈ ds := (List.mem_cons.1 hc).resolve_left fun hcd => h hcd.symm
      have hpid : d.pid ≠ c.pid := by
        intro heq
        exact hnodup.1 (heq ▸ List.mem_map_of_mem hmem)
      rw [List.erase_cons_tail (by simpa using h), List.map_cons, List.map_cons,
        List.erase_cons_tail (by simpa using hpid), ih hnodup.2 hmem]

/-! ## What a step keeps -/

/-- The entries are the children, in their order. -/
structure Inv (s : Server) : Prop where
  pids : s.parent.childHead.map ClientPortPair.pid = s.children
  nodup : s.children.Nodup
  counted : s.parent.connectionCount.toNat = s.parent.childHead.length

theorem Inv.consistent (h : Inv s) : Consistent s where
  entries pid := by
    rw [h.pids]
    exact h.nodup.count
  counted := h.counted

theorem inv_new : Inv {} := ⟨rfl, List.nodup_nil, rfl⟩

/-- What can come of a connection: nothing, or a child and its entry. -/
theorem incoming_cases {sock : Option Connection} (hs : step limit s (.incoming sock pid) = some s') :
    s' = s ∨ ∃ conn : Connection, s.parent.connectionCount < limit ∧ pid ∉ s.children ∧
      s' = { parent :=
               { childHead := s.parent.childHead ++ [⟨pid, conn.host, conn.port⟩]
                 connectionCount := s.parent.connectionCount + 1 }
             children := s.children ++ [pid] } := by
  unfold step at hs
  dsimp only at hs
  cases sock with
  | none =>
    cases hs
    exact Or.inl rfl
  | some conn =>
    unfold forks rtspClientIncomingCb at hs
    by_cases hfull : s.parent.connectionCount ≥ limit
    · simp only [hfull, decide_true, Bool.not_true, Bool.and_false, Bool.false_eq_true, if_false,
        if_true] at hs
      cases hs
      exact Or.inl rfl
    · simp only [hfull, decide_false, Bool.not_false, Option.isSome_some, Bool.and_self, if_true,
        if_false] at hs
      split at hs
      · cases hs
      · rename_i hpid
        rw [not_or] at hpid
        cases hs
        by_cases hpos : pid > 0
        · rw [if_pos hpos, if_pos hpos]
          exact Or.inr ⟨conn, UInt64.not_le.1 hfull, hpid.2, rfl⟩
        · rw [if_neg hpos, if_neg hpos]
          exact Or.inl rfl

theorem Inv.incoming {sock : Option Connection} (h : Inv s)
    (hs : step limit s (.incoming sock pid) = some s') : Inv s' := by
  rcases incoming_cases hs with rfl | ⟨conn, hlt, hpid, rfl⟩
  · exact h
  · refine ⟨?_, ?_, ?_⟩
    · rw [List.map_append, h.pids]
      rfl
    · exact List.nodup_append.2 ⟨h.nodup, List.nodup_singleton pid, fun a ha b hb heq =>
        hpid (List.mem_singleton.1 hb ▸ heq ▸ ha)⟩
    · -- below the limit, the counter does not wrap
      have hcount := h.counted
      have hlimit := limit.toNat_lt
      have hlt : s.parent.connectionCount.toNat < limit.toNat := hlt
      have hone : UInt64.toNat 1 = 1 := rfl
      show (s.parent.connectionCount + 1).toNat = _
      rw [UInt64.toNat_add, List.length_append, List.length_singleton]
      omega

/-- The entry of a child is the one that goes when it ends. -/
theorem Inv.terminated (h : Inv s) (hpid : pid ∈ s.children)
    (hs : step limit s (.terminated pid) = some s') :
    Inv s' ∧ ∀ c ∈ s.parent.childHead, c.pid ≠ pid → c ∈ s'.parent.childHead := by
  cases hs
  obtain ⟨client, hmem, rfl, hitem⟩ := getClientListItem_of_mem (h.pids.symm ▸ hpid)
  have hparent : childTerminateCb s.parent client.pid =
      { childHead := s.parent.childHead.erase client
        connectionCount := s.parent.connectionCount - 1 } := by
    unfold childTerminateCb
    rw [hitem]
    rfl
  rw [hparent]
  refine ⟨⟨?_, h.nodup.erase _, ?_⟩, ?_⟩
  · rw [map_pid_erase (h.pids.symm ▸ h.nodup) hmem, h.pids]
  · have hcount := h.counted
    have hpos := List.length_pos_of_mem hmem
    have hone : UInt64.toNat 1 = 1 := rfl
    have hle : (1 : UInt64) ≤ s.parent.connectionCount := by
      rw [UInt64.le_iff_toNat_le]
      omega
    show (s.parent.connectionCount - 1).toNat = _
    rw [UInt64.toNat_sub_of_le _ _ hle, List.length_erase_of_mem hmem]
    omega
  · intro c hc hne
    refine (List.mem_erase_of_ne ?_).2 hc
    rintro rfl
    exact hne rfl

/-- Without children of connections, another child takes nothing away. -/
theorem Inv.terminated_of_nil (h : Inv s) (hnil : s.children = [])
    (hs : step limit s (.terminated pid) = some s') : s' = s := by
  cases hs
  have hhead : s.parent.childHead = [] := List.map_eq_nil_iff.1 (h.pids.trans hnil)
  have hparent : childTerminateCb s.parent pid = s.parent := by
    unfold childTerminateCb getClientListItem
    rw [hhead]
    rfl
  rw [hparent, hnil]
  obtain ⟨parent, children⟩ := s
  cases hnil
  rfl

/-- Another child takes the last entry away, whose child is still there. -/
theorem not_consistent_of_other (h : Inv s) (hpid : pid ∉ s.children) (hne : s.children ≠ [])
    (hs : step limit s (.terminated pid) = some s') : ¬ Consistent s' := by
  cases hs
  have hhead : s.parent.childHead ≠ [] := by
    intro hnil
    refine hne (h.pids.symm.trans ?_)
    rw [hnil]
    rfl
  obtain ⟨last, hlast⟩ := Option.ne_none_iff_exists'.1
    fun hnone => hhead (List.getLast?_eq_none_iff.1 hnone)
  have hmem : last ∈ s.parent.childHead := List.mem_of_getLast? hlast
  have hchild : last.pid ∈ s.children := h.pids ▸ List.mem_map_of_mem hmem
  have hparent : (childTerminateCb s.parent pid).childHead = s.parent.childHead.erase last := by
    unfold childTerminateCb
    rw [getClientListItem_of_not_mem (h.pids.symm ▸ hpid), hlast]
    rfl
  intro hcons
  have hentries := hcons.entries last.pid
  rw [hparent, map_pid_erase (h.pids.symm ▸ h.nodup) hmem, h.pids, List.erase_of_not_mem hpid,
    if_pos hchild, h.nodup.erase_eq_filter] at hentries
  have hnone : last.pid ∉ s.children.filter (· != last.pid) := by
    intro hm
    have := (List.mem_filter.1 hm).2
    simp at this
  rw [List.count_eq_zero.2 hnone] at hentries
  cases hentries

theorem Inv.kept (h : Inv s) (hown : OwnChild s e) (hs : step limit s e = some s') : Inv s' := by
  cases e with
  | incoming sock pid => exact h.incoming hs
  | terminated pid =>
    rcases hown pid rfl with hpid | hnil
    · exact (h.terminated hpid hs).1
    · rw [h.terminated_of_nil hnil hs]
      exact h

theorem bookkept_iff (h : Inv s) : Bookkept limit s e ↔ OwnChild s e := by
  constructor
  · intro hkept pid he
    subst he
    by_contra hother
    rw [not_or] at hother
    have hs : step limit s (.terminated pid) = some _ := rfl
    exact not_consistent_of_other h hother.1 hother.2 hs (hkept _ hs).1
  · intro hown s' hs
    refine ⟨(h.kept hown hs).consistent, ?_⟩
    rintro pid rfl
    rcases hown pid rfl with hpid | hnil
    · exact (h.terminated hpid hs).2
    · rw [h.terminated_of_nil hnil hs]
      exact fun c hc _ => hc

theorem each_bookkept_iff (h : Inv s) (es : List Event) :
    Run.Each (step limit) (Bookkept limit) s es ↔ Run.Each (step limit) OwnChild s es := by
  have hstep : ∀ s e s', Inv s → OwnChild s e → step limit s e = some s' → Inv s' :=
    fun _ _ _ h hown hs => h.kept hown hs
  exact Run.each_iff hstep (fun _ _ h => bookkept_iff h) h

/-- Along every run of the parent, the bookkeeping is right exactly as long as no child ends that is
not one of a connection while there is one of a connection. -/
theorem children_bookkept_iff (limit : UInt64) (es : List Event) :
    Run.Each (step limit) (Bookkept limit) {} es ↔ Run.Each (step limit) OwnChild {} es :=
  each_bookkept_iff inv_new es

/-- A connection comes in, and another child of the parent ends. -/
def otherChild : List Event := [.incoming (some ⟨"host".toList, 40000⟩) 100, .terminated 7]

theorem otherChild_not_bookkept : ¬ ∀ (limit : UInt64) (es : List Event),
    Run.Each (step limit) (Bookkept limit) {} es := by
  intro h
  have hown := (each_bookkept_iff inv_new otherChild).1 (h 10 otherChild)
  have hlast := (hown.2 _ rfl).1 7 rfl
  exact absurd hlast (by decide)

end Children

end StreamSwitch
