import DarkMed.Socks.Client

/-!
# What a Client Accepts and What It Gives Away

The client's handshake, in either mode, as a parser of what the other end sends, whoever that is.
The standard handshake does not send the credentials before it has been asked for them.
-/

namespace DarkMed.Socks

open DarkMed.Lib.Wire DarkMed.Lib.Wire.Proc

namespace HevSocks5Client

variable {ok : How → Prop} {c w : List UInt8}

/-- An address that `read_response` lets through. -/
def IsNumeric : HevSocks5Addr → Prop
  | .name _ _ => False
  | _ => True

/-- The bytes `c` are an answer to the greeting, one to the credentials if they are asked for, and
    one to the request, all of them positive. -/
def Accepts (self : HevSocks5Client) (c : List UInt8) : Prop :=
  self.type ≠ .none ∧ ∃ method rsv addr, (method = authMethodNone ∨ method = authMethodUser) ∧
    IsNumeric addr ∧ self.setUpstreamAddr addr = true ∧
    c = [version5, method] ++
      ((if method = authMethodUser then [authVersion1, resRepSucc] else []) ++
        ([version5, resRepSucc, rsv] ++ addr.bytes))

/-! ### What is accepted is well formed -/

/-- A write to its end reads nothing, and what is out is a front of its bytes, even if the call
    reports a failure. -/
theorem write_done {bytes : List UInt8} {r : Bool}
    (h : Exec ok (Proc.write bytes >>= fun res => (.done (0 < res) : Proc Bool)) c w (.done r)) :
    c = [] ∧ w <+: bytes := by
  obtain ⟨out, rest, hpre, rfl, hdone⟩ := h.write_bind_done
  obtain ⟨-, rfl, rfl⟩ := exec_done_iff.mp hdone
  rw [List.append_nil]
  exact ⟨rfl, hpre⟩

theorem writeAuthCreds_done {self : HevSocks5Client} {r : Bool}
    (h : Exec ok self.writeAuthCreds c w (.done r)) : c = [] := by
  unfold writeAuthCreds at h
  split at h
  · exact (write_done h).1
  · exact (exec_done_iff.mp h).2.1

/-- A request is made only by a client with a type. -/
theorem writeRequest_done {self : HevSocks5Client}
    (h : Exec ok self.writeRequest c w (.done true)) : self.type ≠ .none ∧ c = [] := by
  unfold writeRequest at h
  split at h
  · simp at h
  · next cmd hcmd =>
    refine ⟨fun htype => ?_, (write_done h).1⟩
    rw [htype] at hcmd
    cases hcmd

/-- The answer to the greeting is two bytes, the first of which is the version; any method is taken
    here, and judged by the caller. -/
theorem readAuthMethod_done {method : UInt8}
    (h : Exec ok readAuthMethod c w (.done (some method))) : c = [version5, method] := by
  obtain ⟨auth, rest, -, rfl, hauth⟩ := h.read_bind_done
  split at hauth
  · next ver method' =>
    obtain ⟨hm, rfl, -⟩ := exec_done_iff.mp hauth
    -- another version gives no method at all
    split_ifs at hm with hver
    obtain rfl := Option.some.inj hm
    rw [List.append_nil, not_not.mp hver]
  · simp at hauth

/-- The credentials count as accepted for one answer only. -/
theorem readAuthCreds_done (h : Exec ok readAuthCreds c w (.done true)) :
    c = [authVersion1, resRepSucc] := by
  obtain ⟨res, rest, -, rfl, hres⟩ := h.read_bind_done
  split at hres
  · obtain ⟨hm, rfl, -⟩ := exec_done_iff.mp hres
    obtain ⟨rfl, rfl⟩ := of_decide_eq_true hm.symm
    rfl
  · simp at hres

/-- An address is read to its end, and the client can use it. -/
theorem readAddr_done {self : HevSocks5Client} {atype : UInt8} {addrlen : Nat}
    (h : Exec ok (self.readAddr atype addrlen) c w (.done true)) :
    ∃ addr, HevSocks5Addr.ofBytes (atype :: c) = some addr ∧ self.setUpstreamAddr addr = true := by
  obtain ⟨rest, more, -, rfl, hrest⟩ := h.read_bind_done
  split_ifs at hrest with hlen
  · simp at hrest
  · split at hrest
    · simp at hrest
    · next addr hof =>
      obtain ⟨hset, rfl, -⟩ := exec_done_iff.mp hrest
      rw [List.append_nil]
      exact ⟨addr, hof, hset.symm⟩

theorem isNumeric_of_bytes {atype : UInt8} {rest : List UInt8} {addr : HevSocks5Addr}
    (h : addr.bytes = atype :: rest) (htype : atype ≠ addrTypeName) : IsNumeric addr := by
  cases addr with
  | ipv4 addr port => trivial
  | ipv6 addr port => trivial
  | name addr port => exact htype (List.cons.inj h).1.symm

/-- A response is taken if it is a success with a numeric address. -/
theorem readResponse_done {self : HevSocks5Client}
    (h : Exec ok self.readResponse c w (.done true)) :
    ∃ rsv addr, IsNumeric addr ∧ self.setUpstreamAddr addr = true ∧
      c = [version5, resRepSucc, rsv] ++ addr.bytes := by
  obtain ⟨res, rest, -, rfl, hres⟩ := h.read_bind_done
  split at hres
  · next ver rep rsv atype =>
    -- both numeric types go the same way, with lengths of their own
    have haddr : ∀ {addrlen}, ver = version5 → rep = resRepSucc → atype ≠ addrTypeName →
        Exec ok (self.readAddr atype addrlen) rest w (.done true) →
        ∃ rsv' addr, IsNumeric addr ∧ self.setUpstreamAddr addr = true ∧
          [ver, rep, rsv, atype] ++ rest = [version5, resRepSucc, rsv'] ++ addr.bytes := by
      rintro addrlen rfl rfl htype hread
      obtain ⟨addr, hof, hset⟩ := readAddr_done hread
      have hbytes := HevSocks5Addr.bytes_ofBytes hof
      exact ⟨rsv, addr, isNumeric_of_bytes hbytes htype, hset, by rw [hbytes]; rfl⟩
    split_ifs at hres with hver hrep h4 h6
    · simp at hres
    · simp at hres
    · exact haddr (not_not.mp hver) (not_not.mp hrep) (h4 ▸ by decide) hres
    · exact haddr (not_not.mp hver) (not_not.mp hrep) (h6 ▸ by decide) hres
    · simp at hres
  · simp at hres

/-- The standard handshake succeeds only on well-formed answers. -/
theorem accepts_of_standard {self : HevSocks5Client}
    (h : Exec ok self.handshakeStandard c w (.done true)) : self.Accepts c := by
  -- what has been read falls apart as the messages do
  obtain ⟨c₁, c₂, w₁, w₂, rfl, rfl, hmethods, hrest⟩ := exec_andThen_iff.mp h
  obtain ⟨res, c₃, c₄, w₃, w₄, rfl, rfl, hmethod, hrest⟩ := hrest.bind_done
  obtain ⟨c₅, c₆, w₅, w₆, rfl, rfl, hauth, hrest⟩ := exec_andThen_iff.mp hrest
  obtain ⟨c₇, c₈, w₇, w₈, rfl, rfl, hrequest, hresponse⟩ := exec_andThen_iff.mp hrest
  obtain ⟨htype, rfl⟩ := writeRequest_done hrequest
  obtain ⟨rsv, addr, hnumeric, hset, rfl⟩ := readResponse_done hresponse
  obtain ⟨rfl, -⟩ := write_done hmethods
  refine ⟨htype, ?_⟩
  -- the credentials are read in the method of users only
  unfold standardAuth at hauth
  split_ifs at hauth with huser
  · subst huser
    obtain ⟨c₉, c₁₀, w₉, w₁₀, rfl, rfl, hcreds, hread⟩ := exec_andThen_iff.mp hauth
    obtain rfl := writeAuthCreds_done hcreds
    obtain rfl := readAuthCreds_done hread
    obtain rfl := readAuthMethod_done hmethod
    exact ⟨authMethodUser, rsv, addr, .inr rfl, hnumeric, hset, rfl⟩
  · obtain ⟨hnone, rfl, -⟩ := exec_done_iff.mp hauth
    obtain rfl : res = some authMethodNone := of_decide_eq_true hnone.symm
    obtain rfl := readAuthMethod_done hmethod
    exact ⟨authMethodNone, rsv, addr, .inl rfl, hnumeric, hset, rfl⟩

/-- The pipelined handshake has written everything before it reads, and succeeds on the same
    answers. -/
theorem accepts_of_pipeline {self : HevSocks5Client}
    (h : Exec ok self.handshakePipeline c w (.done true)) : self.Accepts c := by
  -- the three writes read nothing
  obtain ⟨c₁, c₂, w₁, w₂, rfl, rfl, hmethods, hrest⟩ := exec_andThen_iff.mp h
  obtain ⟨c₃, c₄, w₃, w₄, rfl, rfl, hcreds, hrest⟩ := exec_andThen_iff.mp hrest
  obtain ⟨c₅, c₆, w₅, w₆, rfl, rfl, hrequest, hrest⟩ := exec_andThen_iff.mp hrest
  obtain ⟨res, c₇, c₈, w₇, w₈, rfl, rfl, hmethod, hrest⟩ := hrest.bind_done
  obtain ⟨c₉, c₁₀, w₉, w₁₀, rfl, rfl, hauth, hresponse⟩ := exec_andThen_iff.mp hrest
  obtain ⟨rfl, -⟩ := write_done hmethods
  obtain rfl := writeAuthCreds_done hcreds
  obtain ⟨htype, rfl⟩ := writeRequest_done hrequest
  obtain ⟨rsv, addr, hnumeric, hset, rfl⟩ := readResponse_done hresponse
  refine ⟨htype, ?_⟩
  unfold pipelineAuth at hauth
  split_ifs at hauth with huser
  · subst huser
    obtain rfl := readAuthCreds_done hauth
    obtain rfl := readAuthMethod_done hmethod
    exact ⟨authMethodUser, rsv, addr, .inr rfl, hnumeric, hset, rfl⟩
  · obtain ⟨hnone, rfl, -⟩ := exec_done_iff.mp hauth
    obtain rfl : res = some authMethodNone := of_decide_eq_true hnone.symm
    obtain rfl := readAuthMethod_done hmethod
    exact ⟨authMethodNone, rsv, addr, .inl rfl, hnumeric, hset, rfl⟩

/-! ### What is well formed is accepted -/

section Runs

variable (hgo : ok .go) (self : HevSocks5Client)
include hgo

theorem exec_writeAuthMethods :
    Exec ok self.writeAuthMethods [] self.authMethods (.done true) :=
  Exec.write_last (.refl _) hgo

/-- What `write_auth_creds` writes. -/
def credsBytes (self : HevSocks5Client) : List UInt8 :=
  match self.user, self.pass with
  | some user, some pass => authCreds user pass
  | _, _ => []

theorem exec_writeAuthCreds : Exec ok self.writeAuthCreds [] self.credsBytes (.done true) := by
  unfold writeAuthCreds credsBytes
  cases self.user with
  | none => exact .refl _
  | some user =>
    cases self.pass with
    | none => exact .refl _
    | some pass => exact Exec.write_last (.refl _) hgo

theorem exec_writeRequest {cmd : UInt8} (hcmd : reqCmd self.type = some cmd) :
    Exec ok self.writeRequest [] (request cmd self.upstreamAddr) (.done true) := by
  unfold writeRequest
  rw [hcmd]
  exact Exec.write_last (.refl _) hgo

theorem exec_readAuthMethod (method : UInt8) :
    Exec ok readAuthMethod [version5, method] [] (.done (some method)) :=
  Exec.read_last (.refl _) hgo rfl

/-- Any answer to the credentials is read whole, a refusal too. -/
theorem exec_readAuthCreds (rep : UInt8) :
    Exec ok readAuthCreds [authVersion1, rep] [] (.done (rep = resRepSucc)) := by
  refine Exec.read_last ?_ hgo rfl
  have hand : decide (authVersion1 = authVersion1 ∧ rep = resRepSucc) =
      decide (rep = resRepSucc) := by simp
  show Exec ok (.done (decide (authVersion1 = authVersion1 ∧ rep = resRepSucc))) [] [] _
  rw [hand]
  exact .refl _

theorem exec_readAddr {atype : UInt8} {rest : List UInt8} {addr : HevSocks5Addr}
    (hbytes : addr.bytes = atype :: rest) {addrlen : Nat} (hlen : rest.length = addrlen) :
    Exec ok (self.readAddr atype addrlen) rest [] (.done (self.setUpstreamAddr addr)) := by
  refine Exec.read_last ?_ hgo hlen
  rw [if_neg (not_not.mpr hlen), ← hbytes, HevSocks5Addr.ofBytes_bytes]
  exact .refl _

/-- A success with a numeric address is read whole, and the client takes it if it can use the
    address. -/
theorem exec_readResponse (rsv : UInt8) {addr : HevSocks5Addr} (hnumeric : IsNumeric addr) :
    Exec ok self.readResponse ([version5, resRepSucc, rsv] ++ addr.bytes) []
      (.done (self.setUpstreamAddr addr)) := by
  cases addr with
  | ipv4 a port =>
    have hlen : (a.toList ++ port.toList).length = 6 := by simp
    have hread : Exec ok (self.readAddr addrTypeIpv4 6) (a.toList ++ port.toList) []
        (.done (self.setUpstreamAddr (.ipv4 a port))) := exec_readAddr hgo self rfl hlen
    have hfirst : Exec ok self.readResponse [version5, resRepSucc, rsv, addrTypeIpv4] []
        (self.readAddr addrTypeIpv4 6) := Exec.read_last (.refl _) hgo rfl
    exact hfirst.append hread
  | ipv6 a port =>
    have hlen : (a.toList ++ port.toList).length = 18 := by simp
    have hread : Exec ok (self.readAddr addrTypeIpv6 18) (a.toList ++ port.toList) []
        (.done (self.setUpstreamAddr (.ipv6 a port))) := exec_readAddr hgo self rfl hlen
    have hfirst : Exec ok self.readResponse [version5, resRepSucc, rsv, addrTypeIpv6] []
        (self.readAddr addrTypeIpv6 18) := Exec.read_last (.refl _) hgo rfl
    exact hfirst.append hread
  -- the client does not let names through
  | name a port => exact absurd hnumeric (fun h => h)

/-- Of a refusal only the first four bytes are read; the address behind them is left in the
    stream. -/
theorem exec_readResponse_refused {rep : UInt8} (hrep : rep ≠ resRepSucc) (rsv atype : UInt8) :
    Exec ok self.readResponse [version5, rep, rsv, atype] [] (.done false) := by
  refine Exec.read_last ?_ hgo rfl
  show Exec ok (if version5 ≠ version5 then _ else if rep ≠ resRepSucc then _ else _) [] [] _
  rw [if_neg (by decide), if_pos hrep]
  exact .refl _

/-- Well-formed answers take the standard handshake through, message by message. -/
theorem exec_standard_of_accepts (h : self.Accepts c) :
    ∃ w, Exec ok self.handshakeStandard c w (.done true) := by
  obtain ⟨htype, method, rsv, addr, hmethod, hnumeric, hset, rfl⟩ := h
  -- a client with a type has a command
  obtain ⟨cmd, hcmd⟩ : ∃ cmd, reqCmd self.type = some cmd := by
    cases htype' : self.type with
    | none => exact absurd htype' htype
    | _ => exact ⟨_, rfl⟩
  have hresponse := exec_readResponse hgo self rsv hnumeric
  rw [hset] at hresponse
  have htail := (exec_writeRequest hgo self hcmd).andThen_true hresponse
  have hmethods := exec_writeAuthMethods hgo self
  have hread := exec_readAuthMethod hgo method
  obtain rfl | rfl := hmethod
  · -- nobody asks for credentials
    exact ⟨_, hmethods.andThen_true (hread.trans (.andThen_true (.refl _) htail))⟩
  · have hcreds := (exec_writeAuthCreds hgo self).andThen_true (exec_readAuthCreds hgo resRepSucc)
    exact ⟨_, hmethods.andThen_true (hread.trans (.andThen_true hcreds htail))⟩

/-- The same answers take the pipelined handshake through. -/
theorem exec_pipeline_of_accepts (h : self.Accepts c) :
    ∃ w, Exec ok self.handshakePipeline c w (.done true) := by
  obtain ⟨htype, method, rsv, addr, hmethod, hnumeric, hset, rfl⟩ := h
  obtain ⟨cmd, hcmd⟩ : ∃ cmd, reqCmd self.type = some cmd := by
    cases htype' : self.type with
    | none => exact absurd htype' htype
    | _ => exact ⟨_, rfl⟩
  have hresponse := exec_readResponse hgo self rsv hnumeric
  rw [hset] at hresponse
  have hmethods := exec_writeAuthMethods hgo self
  have hcreds := exec_writeAuthCreds hgo self
  have hrequest := exec_writeRequest hgo self hcmd
  have hread := exec_readAuthMethod hgo method
  obtain rfl | rfl := hmethod
  · -- the credentials have been sent, and nobody has asked for them
    exact ⟨_, hmethods.andThen_true (hcreds.andThen_true (hrequest.andThen_true
      (hread.trans (.andThen_true (.refl _) hresponse))))⟩
  · have hauth := exec_readAuthCreds hgo resRepSucc
    exact ⟨_, hmethods.andThen_true (hcreds.andThen_true (hrequest.andThen_true
      (hread.trans (.andThen_true hauth hresponse))))⟩

end Runs

/-- **Both handshakes accept the same answers**, whoever gives them: the well-formed ones, of which
    they leave what comes behind unread. -/
theorem client_accepts_iff (self : HevSocks5Client) (pipeline : Bool) (c : List UInt8) :
    (∃ w, Exec (fun _ => True) (self.handshake pipeline) c w (.done true)) ↔ self.Accepts c := by
  cases pipeline with
  | false =>
    exact ⟨fun ⟨_, h⟩ => accepts_of_standard h, exec_standard_of_accepts trivial self⟩
  | true =>
    exact ⟨fun ⟨_, h⟩ => accepts_of_pipeline h, exec_pipeline_of_accepts trivial self⟩

/-! ## What the client gives away -/

theorem silent_readAuthMethod : Silent ok readAuthMethod := by
  refine (silent_read 2).bind fun auth => ?_
  split
  · exact silent_done _
  · exact silent_done _

theorem silent_readAuthCreds : Silent ok readAuthCreds := by
  refine (silent_read 2).bind fun res => ?_
  split
  · exact silent_done _
  · exact silent_done _

theorem silent_readAddr (self : HevSocks5Client) (atype : UInt8) (addrlen : Nat) :
    Silent ok (self.readAddr atype addrlen) := by
  refine (silent_read addrlen).bind fun rest => ?_
  split
  · exact silent_done _
  · split
    · exact silent_done _
    · exact silent_done _

/-- Reading a response sends nothing, whatever is read. -/
theorem silent_readResponse (self : HevSocks5Client) : Silent ok self.readResponse := by
  refine (silent_read 4).bind fun res => ?_
  split
  · split_ifs
    · exact silent_done _
    · exact silent_done _
    · exact silent_readAddr self _ _
    · exact silent_readAddr self _ _
    · exact silent_done _
  · exact silent_done _

/-- The request that the client makes, if its type has one. -/
def requestBytes (self : HevSocks5Client) : List UInt8 :=
  match reqCmd self.type with
  | none => []
  | some cmd => request cmd self.upstreamAddr

/-- A write, which may be cut short. -/
theorem written_of_write {bytes : List UInt8} {q : Proc Bool}
    (h : Exec ok (Proc.write bytes >>= fun res => (.done (0 < res) : Proc Bool)) c w q) :
    w <+: bytes := by
  -- the call is still going on, or has ended
  obtain ⟨y, -, hy⟩ | ⟨n, c₁, c₂, w₁, w₂, rfl, rfl, hwrite, hdone⟩ := h.bind
  · exact hy.write.2
  · obtain ⟨-, rfl, rfl⟩ := hdone.of_done
    rw [List.append_nil]
    exact hwrite.write.2

/-- A request that is cut short is still a front of the client's request. -/
theorem written_of_writeRequest {self : HevSocks5Client} {q : Proc Bool}
    (h : Exec ok self.writeRequest c w q) : w <+: self.requestBytes := by
  unfold writeRequest requestBytes at *
  cases hcmd : reqCmd self.type with
  | none =>
    rw [hcmd] at h
    obtain ⟨-, -, rfl⟩ := h.of_done
    exact List.nil_prefix
  | some cmd =>
    rw [hcmd] at h
    exact written_of_write h

/-- **The standard handshake withholds the credentials** until the server has asked for them: in
    every run of it against anyone, and however calls fail, what it has sent is of its greeting and
    of its request, unless what it has been sent begins with the method of users. -/
theorem standard_withholds {self : HevSocks5Client} {q : Proc Bool}
    (h : Exec ok self.handshakeStandard c w q) :
    (∃ w₁ w₂, w = w₁ ++ w₂ ∧ w₁ <+: self.authMethods ∧ w₂ <+: self.requestBytes) ∨
      [version5, authMethodUser] <+: c := by
  obtain ⟨x', hmethods⟩ | ⟨c₁, c₂, w₁, w₂, rfl, rfl, hmethods, hrest⟩ := h.andThen
  · exact .inl ⟨w, [], (List.append_nil w).symm, written_of_write hmethods, List.nil_prefix⟩
  · have hpre := written_of_write hmethods
    obtain ⟨rfl, -⟩ := write_done hmethods
    -- the greeting is out: what has been sent behind it depends on the answer
    obtain ⟨y, -, hy⟩ | ⟨res, c₃, c₄, w₃, w₄, rfl, rfl, hmethod, htail⟩ := hrest.bind
    · exact .inl ⟨w₁, w₂, rfl, hpre, silent_readAuthMethod.nothing hy ▸ List.nil_prefix⟩
    · obtain rfl := silent_readAuthMethod.nothing hmethod
      by_cases huser : res = some authMethodUser
      · subst huser
        obtain rfl := readAuthMethod_done hmethod
        exact .inr (List.prefix_append _ _)
      · -- without the method of users, only the request can follow
        rw [standardAuth, if_neg huser] at htail
        refine .inl ⟨w₁, w₄, rfl, hpre, ?_⟩
        obtain ⟨x', hdone⟩ | ⟨c₅, c₆, w₅, w₆, -, rfl, hdone, hlast⟩ := htail.andThen
        · obtain ⟨-, -, rfl⟩ := hdone.of_done
          exact List.nil_prefix
        · obtain ⟨-, -, rfl⟩ := hdone.of_done
          obtain ⟨x', hrequest⟩ | ⟨c₇, c₈, w₇, w₈, -, rfl, hrequest, hresponse⟩ := hlast.andThen
          · exact written_of_writeRequest hrequest
          · rw [(silent_readResponse self).nothing hresponse, List.append_nil]
            exact written_of_writeRequest hrequest

/-- The greeting is out, and nothing has been answered. -/
theorem someClient_withholds : ∃ q,
    Exec Undisturbed someClient.handshakeStandard [] [version5, 1, authMethodUser] q ∧
      ∃ w₁ w₂, [version5, 1, authMethodUser] = w₁ ++ w₂ ∧ w₁ <+: someClient.authMethods ∧
        w₂ <+: someClient.requestBytes := by
  have h : Exec Undisturbed someClient.handshakeStandard [] [version5, 1, authMethodUser] _ :=
    (exec_writeAuthMethods undisturbed_go someClient).andThen_true (.refl _)
  exact ⟨_, h, (standard_withholds h).resolve_right (by decide)⟩

/-! ### What the client writes at most -/

theorem writes_writeAuthMethods (hcut : ¬ ok .cut) (self : HevSocks5Client) :
    Writes ok self.writeAuthMethods self.authMethods := writes_write hcut _

/-- A client without a name or a password writes no credentials at all. -/
theorem writes_writeAuthCreds (hcut : ¬ ok .cut) (self : HevSocks5Client) :
    Writes ok self.writeAuthCreds self.credsBytes := by
  unfold writeAuthCreds credsBytes
  cases self.user with
  | none => exact writes_done true
  | some user =>
    cases self.pass with
    | none => exact writes_done true
    | some pass => exact writes_write hcut _

/-- A request that is not made is not a success. -/
theorem writes_writeRequest (hcut : ¬ ok .cut) (self : HevSocks5Client) :
    Writes ok self.writeRequest self.requestBytes := by
  unfold writeRequest requestBytes
  cases reqCmd self.type with
  | none => exact writes_done false
  | some cmd => exact writes_write hcut _

/-- In the standard handshake the credentials are written if they have been asked for, and nothing
    else is. -/
theorem writes_standardAuth (hcut : ¬ ok .cut) (self : HevSocks5Client) (res : Option UInt8) :
    Writes ok (self.standardAuth res) self.credsBytes ∨ Writes ok (self.standardAuth res) [] := by
  unfold standardAuth
  split
  · left
    have h := (writes_writeAuthCreds hcut self).andThen silent_readAuthCreds.writes
    rwa [List.append_nil] at h
  · exact .inr (writes_done _)

/-- The pipelined handshake has nothing left to say when it reads the verdict. -/
theorem silent_pipelineAuth (res : Option UInt8) : Silent ok (pipelineAuth res) := by
  unfold pipelineAuth
  split
  · exact silent_readAuthCreds
  · exact silent_done _

/-- Without a write that is cut short, the client keeps to its messages. -/
theorem written_of_handshake (hcut : ¬ ok .cut) {self : HevSocks5Client} {pipeline : Bool}
    {q : Proc Bool} (h : Exec ok (self.handshake pipeline) c w q) :
    w <+: self.authMethods ++ (self.credsBytes ++ self.requestBytes) ∨
      w <+: self.authMethods ++ self.requestBytes := by
  have hmethods := writes_writeAuthMethods hcut self
  have hcreds := writes_writeAuthCreds hcut self
  have hrequest := writes_writeRequest hcut self
  have hresponse : Silent ok self.readResponse := silent_readResponse self
  cases pipeline with
  -- all is written before anything is read
  | true =>
    have htail : Silent ok (readAuthMethod >>= fun res =>
        (pipelineAuth res).andThen self.readResponse) :=
      silent_readAuthMethod.bind fun res => (silent_pipelineAuth res).andThen hresponse
    have hall := (hmethods.andThen (hcreds.andThen (hrequest.andThen htail.writes))).pre h
    rw [List.append_nil] at hall
    exact .inl hall
  | false =>
    obtain ⟨x', hx⟩ | ⟨c₁, c₂, w₁, w₂, rfl, rfl, h₁, hrest⟩ := h.andThen
    · exact .inl ((hmethods.pre hx).trans (List.prefix_append _ _))
    · obtain rfl := hmethods.whole h₁
      obtain ⟨y, -, hy⟩ | ⟨res, c₃, c₄, w₃, w₄, rfl, rfl, hmethod, htail⟩ := hrest.bind
      · rw [silent_readAuthMethod.nothing hy, List.append_nil]
        exact .inl (List.prefix_append _ _)
      · obtain rfl := silent_readAuthMethod.nothing hmethod
        -- the answer decides whether the credentials stand between greeting and request
        obtain hauth | hauth := writes_standardAuth hcut self res
        · have hpre := (hauth.andThen (hrequest.andThen hresponse.writes)).pre htail
          rw [List.append_nil] at hpre
          exact .inl ((List.prefix_append_right_inj _).mpr hpre)
        · have hpre := (hauth.andThen (hrequest.andThen hresponse.writes)).pre htail
          rw [List.append_nil, List.nil_append] at hpre
          exact .inr ((List.prefix_append_right_inj _).mpr hpre)

end HevSocks5Client

end DarkMed.Socks
