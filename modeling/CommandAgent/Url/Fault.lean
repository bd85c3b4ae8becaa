/-!
# Faults of URLs

The reasons for which a text is no URL. A domain name has one reason for all that can be wrong
with it.
-/

namespace CommandAgent.Url

inductive Fault where
  | noBase
  | emptyHost
  | invalidPort
  | invalidIpv6
  | invalidIpv4
  | invalidDomainCharacter
  | invalidDomainName
deriving DecidableEq, Repr

def Fault.message : Fault → String
  | noBase => "relative URL without a base"
  | emptyHost => "empty host"
  | invalidPort => "invalid port number"
  | invalidIpv6 => "invalid IPv6 address"
  | invalidIpv4 => "invalid IPv4 address"
  | invalidDomainCharacter => "invalid domain character"
  | invalidDomainName => "invalid international domain name"

end CommandAgent.Url
