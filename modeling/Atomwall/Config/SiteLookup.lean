import Atomwall.Base.ByteString
import Atomwall.Config.RuntimeConfig

/-! `config/site_lookup.cpp`: the site a Host header or an SNI name selects. -/

namespace Atomwall

open ByteString

/-- Drops what stands from the last `:` on where it is a number. -/
def stripPort (host : String) : String :=
  let backwards := host.toList.reverse
  let digits := backwards.takeWhile Char.isDigit
  match digits, backwards.dropWhile Char.isDigit with
  | _ :: _, ':' :: name => String.ofList name.reverse
  | _, _ => host

structure ResolvedSite where
  upstream : UpstreamConfig
  certFile : Option String := none
  keyFile : Option String := none
  enabled : Bool := true
  matched : Bool := false

def resolveSite (config : RuntimeConfig) (hostOrSni : String) : ResolvedSite :=
  match config.sites.find? fun site => iequals (stripPort hostOrSni) site.domain with
  | some site =>
    { upstream := site.upstream
      certFile := if site.certFile = "" then none else some site.certFile
      keyFile := if site.keyFile = "" then none else some site.keyFile
      enabled := site.enabled
      matched := true }
  | none => { upstream := config.upstream }

end Atomwall
