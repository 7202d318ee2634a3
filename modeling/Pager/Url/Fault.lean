namespace Pager

inductive Url.Fault
  | noBase
  | emptyHost
  | badPort
  | badIpv4
  | badIpv6
  | badDomainName
  | badDomainCharacter
  deriving DecidableEq, Repr

def Url.Fault.message : Url.Fault → String
  | .noBase => "relative URL without a base"
  | .emptyHost => "empty host"
  | .badPort => "invalid port number"
  | .badIpv4 => "invalid IPv4 address"
  | .badIpv6 => "invalid IPv6 address"
  | .badDomainName => "invalid international domain name"
  | .badDomainCharacter => "invalid domain character"

end Pager
