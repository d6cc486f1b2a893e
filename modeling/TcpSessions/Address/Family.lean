import TcpSessions.Text.Numeral
/-!
# Address families

The families that the socket layer knows, with their numbers and names. Sessions use only
`inet` and `inet6`; the others are valid arguments that a later check refuses.
-/
namespace TcpSessions

inductive Family
  | unspec | unix | inet | ax25 | ipx | appletalk | netrom | bridge | atmpvc | x25 | inet6 | rose
  | netbeui | security | key | netlink | packet | ash | econet | atmsvc | rds | sna | irda | pppox
  | wanpipe | llc | can | tipc | bluetooth | alg | vsock | qipcrtr
  deriving DecidableEq, Repr

namespace Family

def all : List Family :=
  [unspec, unix, inet, ax25, ipx, appletalk, netrom, bridge, atmpvc, x25, inet6, rose,
   netbeui, security, key, netlink, packet, ash, econet, atmsvc, rds, sna, irda, pppox,
   wanpipe, llc, can, tipc, bluetooth, alg, vsock, qipcrtr]

/-- The number by which the socket layer knows a family. -/
def number : Family → Nat
  | unspec => 0 | unix => 1 | inet => 2 | ax25 => 3 | ipx => 4 | appletalk => 5 | netrom => 6
  | bridge => 7 | atmpvc => 8 | x25 => 9 | inet6 => 10 | rose => 11 | netbeui => 13
  | security => 14 | key => 15 | netlink => 16 | packet => 17 | ash => 18 | econet => 19
  | atmsvc => 20 | rds => 21 | sna => 22 | irda => 23 | pppox => 24 | wanpipe => 25 | llc => 26
  | can => 29 | tipc => 30 | bluetooth => 31 | alg => 38 | vsock => 40 | qipcrtr => 42

def name : Family → String
  | unspec => "AF_UNSPEC" | unix => "AF_UNIX" | inet => "AF_INET" | ax25 => "AF_AX25"
  | ipx => "AF_IPX" | appletalk => "AF_APPLETALK" | netrom => "AF_NETROM" | bridge => "AF_BRIDGE"
  | atmpvc => "AF_ATMPVC" | x25 => "AF_X25" | inet6 => "AF_INET6" | rose => "AF_ROSE"
  | netbeui => "AF_NETBEUI" | security => "AF_SECURITY" | key => "AF_KEY"
  | netlink => "AF_NETLINK" | packet => "AF_PACKET" | ash => "AF_ASH" | econet => "AF_ECONET"
  | atmsvc => "AF_ATMSVC" | rds => "AF_RDS" | sna => "AF_SNA" | irda => "AF_IRDA"
  | pppox => "AF_PPPOX" | wanpipe => "AF_WANPIPE" | llc => "AF_LLC" | can => "AF_CAN"
  | tipc => "AF_TIPC" | bluetooth => "AF_BLUETOOTH" | alg => "AF_ALG" | vsock => "AF_VSOCK"
  | qipcrtr => "AF_QIPCRTR"

def ofNumber? (n : Int) : Option Family :=
  all.find? fun f => decide ((f.number : Int) = n)

def shown (f : Family) : String :=
  "<AddressFamily." ++ f.name ++ ": " ++ Text.natText f.number ++ ">"

/-- How many bytes an address of the family has, for the families that sessions use. -/
def addressLength? : Family → Option Nat
  | inet => some 4
  | inet6 => some 16
  | _ => none

end Family

/-- A family as a caller may name it: one of the known ones, or a bare number. -/
inductive FamilyCode
  | known (family : Family)
  | bare (number : Int)
  deriving DecidableEq, Repr

/-- The family that a code stands for; a bare number counts when some family has it. -/
def FamilyCode.family? : FamilyCode → Option Family
  | known f => some f
  | bare n => Family.ofNumber? n

/-- How a code is shown: a known family by name and number, a bare number as it is. -/
def FamilyCode.shown : FamilyCode → String
  | known f => f.shown
  | bare n => Text.intText n

end TcpSessions
