import EvseIso15118.Octets

namespace EvseIso15118

/-- `use_tls`, `plain_tcp_fd`, `client_fd.fd` and `listen_fd.fd`. -/
structure TransportStatics where
  useTls : ℤ := 1
  plainTcpFd : ℤ := -1
  clientFd : ℤ := 0
  listenFd : ℤ := 0
  deriving DecidableEq

/-- The API that carries the bytes of a connection. -/
inductive Channel
  | tls
  | tcp
  deriving DecidableEq

/-- What every function here asks first: `if (use_tls)`. -/
def TransportStatics.channel (st : TransportStatics) : Channel :=
  if st.useTls ≠ 0 then .tls else .tcp

/-- The results of the calls made to accept a connection: zero for success in the first group,
a descriptor or a negative value elsewhere. -/
structure AcceptEnv where
  drbgSeed : ℤ
  certParse : ℤ
  keyParse : ℤ
  netBind : ℤ
  netListenFd : ℤ
  netAccept : ℤ
  netClientFd : ℤ
  socket : ℤ
  setsockopt : ℤ
  bind : ℤ
  listen : ℤ
  accept : ℤ

/-- The TLS branch: random numbers, certificate and key, then a connection. -/
def acceptTls (env : AcceptEnv) (st : TransportStatics) : ℤ × TransportStatics :=
  -- `mbedtls_net_init` sets both descriptors to -1
  let st := { st with listenFd := -1, clientFd := -1 }
  if env.drbgSeed ≠ 0 then (-1, st)
  else if env.certParse ≠ 0 then (-1, st)
  else if env.keyParse ≠ 0 then (-1, st)
  else if env.netBind ≠ 0 then (-1, st)
  else if env.netAccept ≠ 0 then (-1, { st with listenFd := env.netListenFd })
  else (env.netClientFd, { st with listenFd := env.netListenFd, clientFd := env.netClientFd })

def acceptTcp (env : AcceptEnv) (st : TransportStatics) : ℤ × TransportStatics :=
  if env.socket < 0 then (-1, st)
  else if env.setsockopt < 0 then (-1, st)
  else if env.bind < 0 then (-1, st)
  else if env.listen < 0 then (-1, st)
  -- the negative result is kept
  else if env.accept < 0 then (-1, { st with plainTcpFd := env.accept })
  else (env.accept, { st with plainTcpFd := env.accept })

def tlsServerInitAndAcceptEx (env : AcceptEnv) (useTlsMode : ℤ) (st : TransportStatics) :
    ℤ × TransportStatics :=
  if useTlsMode ≠ 0 then acceptTls env { st with useTls := useTlsMode }
  else acceptTcp env { st with useTls := useTlsMode }

def tlsServerInitAndAccept (env : AcceptEnv) (st : TransportStatics) : ℤ × TransportStatics :=
  tlsServerInitAndAcceptEx env 1 st

theorem tlsServerInitAndAcceptEx_useTls (env : AcceptEnv) (mode : ℤ) (st : TransportStatics) :
    (tlsServerInitAndAcceptEx env mode st).2.useTls = mode := by
  simp only [tlsServerInitAndAcceptEx, acceptTls, acceptTcp]
  split_ifs <;> rfl

/-- `mbedtls_ssl_setup`, and the results of `mbedtls_ssl_handshake` one after the other. -/
structure HandshakeEnv where
  sslSetup : ℤ
  handshake : List ℤ

def sslWantRead : ℤ := -0x6900

def sslWantWrite : ℤ := -0x6880

/-- The loop over `mbedtls_ssl_handshake`; none while it still wants to read or write. -/
def handshakeLoop : List ℤ → Option ℤ
  | [] => none
  | ret :: rets =>
    if ret = 0 then some 0
    else if ret ≠ sslWantRead ∧ ret ≠ sslWantWrite then some (-1)
    else handshakeLoop rets

def tlsHandshake (env : HandshakeEnv) : Option ℤ :=
  if env.sslSetup ≠ 0 then some (-1) else handshakeLoop env.handshake

/-- After calls of `recv`: the bytes in `buf`, what the socket still holds, and whether the last
call reported the end or an error. -/
structure RecvResult where
  buf : List Byte
  rest : List (List Byte)
  ended : Bool
  deriving DecidableEq

/-- Calls of `recv` while fewer than `target` bytes are there, with room for `len`. Each
segment is what one call finds; one without bytes is the end or an error. -/
def recvLoop (target len : ℕ) : List Byte → List (List Byte) → RecvResult
  | buf, [] => ⟨buf, [], buf.length < target && buf.length < len⟩
  | buf, seg :: segs =>
    if target ≤ buf.length ∨ len ≤ buf.length then ⟨buf, seg :: segs, false⟩
    else if seg = [] then ⟨buf, segs, true⟩
    else
      let room := len - buf.length
      -- the socket keeps what there is no room for
      let rest := if seg.length ≤ room then segs else seg.drop room :: segs
      -- `int ret` is negative for too many bytes: the loop is left without them
      if toInt32 (min seg.length room : ℕ) ≤ 0 then ⟨buf, rest, false⟩
      else if seg.length ≤ room then recvLoop target len (buf ++ seg) segs
      else ⟨buf ++ seg.take room, rest, false⟩

/-- The loop with `ret` over the integers: the bytes in `buf` and what the socket still holds. -/
def recvUntil (target len : ℕ) : List Byte → List (List Byte) → List Byte × List (List Byte)
  | buf, [] => (buf, [])
  | buf, seg :: segs =>
    if target ≤ buf.length ∨ len ≤ buf.length then (buf, seg :: segs)
    else if seg = [] then (buf, segs)
    else if seg.length ≤ len - buf.length then recvUntil target len (buf ++ seg) segs
    -- the buffer is full and the socket keeps the rest
    else (buf ++ seg.take (len - buf.length), seg.drop (len - buf.length) :: segs)

/-- The calls of `recv` in `tls_read` without TLS: for the header first, then for as much as the
header announces. The announced total is an unsigned 32-bit sum. -/
def tcpReceive (len : ℕ) (segs : List (List Byte)) : RecvResult :=
  let header := recvLoop 8 len [] segs
  if header.buf.length < 8 then header
  else
    let payloadLength := be32 (byteAt header.buf 4) (byteAt header.buf 5) (byteAt header.buf 6)
      (byteAt header.buf 7)
    recvLoop (8 + payloadLength).toNat len header.buf header.rest

/-- `tls_read` without TLS: the count is returned as an `int`, -1 where the first `recv` brings
nothing. -/
def tcpRead (len : ℕ) (segs : List (List Byte)) : ℤ × List Byte × List (List Byte) :=
  let received := tcpReceive len segs
  if received.buf = [] ∧ 0 < len then (-1, received.buf, received.rest)
  else (toInt32 received.buf.length, received.buf, received.rest)

/-- `tls_read`: the return value, the bytes in `buf` and what the socket still holds.
`sslRead` is the result of `mbedtls_ssl_read` and the bytes it wrote. -/
def tlsRead (st : TransportStatics) (sslRead : ℤ × List Byte) (len : ℕ)
    (segs : List (List Byte)) : ℤ × List Byte × List (List Byte) :=
  match st.channel with
  | .tls => if sslRead.1 < 0 then (-1, sslRead.2, segs) else (sslRead.1, sslRead.2, segs)
  | .tcp => tcpRead len segs

/-- `tls_write`, from the results of `mbedtls_ssl_write` and `send`. -/
def tlsWrite (st : TransportStatics) (sslWrite send : List Byte → ℤ) (buf : List Byte) : ℤ :=
  match st.channel with
  | .tls => if sslWrite buf < 0 then -1 else sslWrite buf
  | .tcp => send buf

/-- `tls_close`; `mbedtls_net_free` sets a descriptor to -1. -/
def tlsClose (st : TransportStatics) : TransportStatics :=
  match st.channel with
  | .tls => { st with clientFd := -1, listenFd := -1 }
  | .tcp => if 0 ≤ st.plainTcpFd then { st with plainTcpFd := -1 } else st

end EvseIso15118
