import ArtikSdk.Lib.Tlv

/-!
# DHCP messages

`struct dhcpmsg_s` of the server and `struct dhcp_msg` of the client are the same 548
bytes; a message is modelled as that byte memory, with the offset of each field. The
boards are little-endian, so `htonl` and `ntohl` are `Mem.swap`.
-/

namespace ArtikSdk.Dhcp
open Lib

/-- `in_addr_t`, in host or network order as the source has it. -/
abbrev Addr := BitVec 32

/-- `htonl` and `ntohl`. -/
abbrev htonl (a : Addr) : Addr := Mem.swap a

/-- `uint8_t mac[DHCP_HLEN_ETHERNET]` -/
@[ext] structure Mac where
  bytes : List Byte
  length_eq : bytes.length = 6

instance : DecidableEq Mac := fun a b =>
  decidable_of_iff ((a.bytes == b.bytes) = true) ⟨fun same => Mac.ext (beq_iff_eq.1 same), fun same => by rw [same, beq_self_eq_true]⟩

/-- The address in the examples has the length of one. -/
theorem exampleMac_length : ([2, 0, 0, 0, 0, 1] : List Byte).length = 6 := rfl

/-- The MAC address of a zeroed lease. -/
def Mac.zero : Mac := ⟨[0, 0, 0, 0, 0, 0], rfl⟩

/-- The MAC address at an offset of a message. -/
def macAt (m : Mem) (a : Nat) : Mac := ⟨m.load a 6, m.load_length a 6⟩

theorem macAt_of_holds {m : Mem} {a : Nat} {mac : Mac} (h : Mem.Holds m a mac.bytes) : macAt m a = mac := by
  obtain ⟨bytes, six⟩ := mac
  have read := h.load_eq
  simp only [six] at read
  simp only [macAt, read]

/-! ## Field offsets -/

namespace Msg

@[simp] def op : Nat := 0
@[simp] def htype : Nat := 1
@[simp] def hlen : Nat := 2
@[simp] def xid : Nat := 4
@[simp] def flags : Nat := 10
@[simp] def ciaddr : Nat := 12
@[simp] def yiaddr : Nat := 16
@[simp] def giaddr : Nat := 24
@[simp] def chaddr : Nat := 28
@[simp] def sname : Nat := 44
@[simp] def file : Nat := 108
@[simp] def options : Nat := 236

/-- `sizeof(struct dhcpmsg_s)` -/
@[simp] def size : Nat := 548

end Msg

/-- `DHCPD_OPTIONS_SIZE` -/
@[simp] def optionsSize : Nat := 312

/-- `DHCP_REQUEST` and `DHCP_REPLY`, the values of `op`. -/
@[simp] def dhcpRequest : Byte := 1
@[simp] def dhcpReply : Byte := 2

/-- `DHCP_HTYPE_ETHERNET` and `DHCP_HLEN_ETHERNET` -/
@[simp] def htypeEthernet : Byte := 1
@[simp] def hlenEthernet : Nat := 6

/-- `g_magiccookie` of the server, `magic_cookie` of the client. -/
def magicCookie : List Byte := [99, 130, 83, 99]

@[simp] theorem magicCookie_length : magicCookie.length = 4 := rfl

/-! ## Message types -/

namespace MsgType

@[simp] def discover : Byte := 1
@[simp] def offer : Byte := 2
@[simp] def request : Byte := 3
@[simp] def decline : Byte := 4
@[simp] def ack : Byte := 5
@[simp] def nak : Byte := 6
@[simp] def release : Byte := 7

end MsgType

/-! ## Option codes -/

namespace Code

@[simp] def pad : Byte := 0
@[simp] def subnetMask : Byte := 1
@[simp] def router : Byte := 3
@[simp] def dnsServer : Byte := 6
@[simp] def reqIpaddr : Byte := 50
@[simp] def leaseTime : Byte := 51
@[simp] def overload : Byte := 52
@[simp] def msgType : Byte := 53
@[simp] def serverId : Byte := 54
@[simp] def reqList : Byte := 55
@[simp] def fin : Byte := 255

end Code

/-! ## Reading a datagram

The reading of the protocol, used to say what a sent or received message carries; the
two programs have parsers of their own. -/

/-- The options of a message, after its magic cookie. -/
def optionsOf (bytes : List Byte) : Option (List Tlv.Opt) :=
  Tlv.decode Code.pad Code.fin (bytes.drop (Msg.options + 4))

/-- The data of the last option `code` of a message. -/
def optionOf (code : Byte) (bytes : List Byte) : Option (List Byte) :=
  (optionsOf bytes).bind (Tlv.last code)

/-- An option holding a word, as `memcpy` reads it. -/
def wordOf (data : List Byte) : BitVec 32 := (Mem.ofList data).word 0

@[simp] theorem wordOf_wordBytes (w : BitVec 32) : wordOf (Mem.wordBytes w) = w :=
  Mem.word_of_holds (Mem.holds_ofList _)

theorem wordBytes_wordOf {data : List Byte} (four : data.length = 4) : Mem.wordBytes (wordOf data) = data := by
  rw [wordOf, ← (Mem.holds_word _ 0).load_eq, Mem.wordBytes_length, ← four]
  exact (Mem.holds_ofList data).load_eq

/-- `yiaddr` of a message, in network order. -/
def yiaddrOf (bytes : List Byte) : Addr := (Mem.ofList bytes).word Msg.yiaddr

/-- The client MAC address of a message. -/
def chaddrOf (bytes : List Byte) : Mac := macAt (Mem.ofList bytes) Msg.chaddr

/-- The message type of a message; zero where the option is missing. -/
def typeOf (bytes : List Byte) : Byte := ((optionOf Code.msgType bytes).bind List.head?).getD 0

/-! ## Writing a datagram -/

/-- The fields in front of the options. -/
def header (op : Byte) (xid : List Byte) (ciaddr yiaddr : Addr) (mac : Mac) : List Byte :=
  [op, htypeEthernet, 6, 0] ++ xid ++ [0, 0, 0, 0] ++ Mem.wordBytes ciaddr ++ Mem.wordBytes yiaddr ++ List.replicate 8 0 ++
    mac.bytes ++ List.replicate 202 0

/-- A message with the given header and options. -/
def message (op : Byte) (xid : List Byte) (ciaddr yiaddr : Addr) (mac : Mac) (os : List Tlv.Opt) : List Byte :=
  header op xid ciaddr yiaddr mac ++ (magicCookie ++ (Tlv.encode os ++ [Code.fin]))

theorem header_length {op : Byte} {xid : List Byte} (four : xid.length = 4) (ciaddr yiaddr : Addr) (mac : Mac) :
    (header op xid ciaddr yiaddr mac).length = Msg.options := by
  simp only [header, List.length_append, List.length_cons, List.length_nil, List.length_replicate, Mem.wordBytes_length,
    mac.length_eq, four, Msg.options, Nat.reduceAdd]

theorem message_length {op : Byte} {xid : List Byte} (four : xid.length = 4) (ciaddr yiaddr : Addr) (mac : Mac)
    (os : List Tlv.Opt) : (message op xid ciaddr yiaddr mac os).length = Msg.options + 5 + (Tlv.encode os).length := by
  rw [message, List.length_append, List.length_append, List.length_append, header_length four, magicCookie_length,
    List.length_singleton]
  omega

theorem message_area {op : Byte} {xid : List Byte} (four : xid.length = 4) (ciaddr yiaddr : Addr) (mac : Mac) (os : List Tlv.Opt) :
    Mem.Holds (Mem.ofList (message op xid ciaddr yiaddr mac os)) Msg.options (magicCookie ++ (Tlv.encode os ++ [Code.fin])) := by
  have whole := Mem.holds_ofList (message op xid ciaddr yiaddr mac os)
  rw [message, Mem.holds_append, header_length four, Nat.zero_add] at whole
  exact whole.2

end ArtikSdk.Dhcp
