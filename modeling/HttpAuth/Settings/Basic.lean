import HttpAuth.Binary64.Shortest

/-!
# Client settings

The proxy, the trust in certificates, the treatment of redirects and the timeouts of a client.  A
timeout of zero seconds means that there is none.
-/

namespace HttpAuth

/-- A proxy for outgoing requests. -/
structure ProxySettings where
  /-- Host of the proxy. -/
  host : Text
  /-- Port of the proxy. -/
  port : Int
  /-- The proxy is reached over TLS. -/
  secure : Bool := false
  deriving Repr, DecidableEq

namespace ProxySettings

/-- The URL of a proxy. -/
def url (proxy : ProxySettings) : Text :=
  (if proxy.secure then "https" else "http").toList ++ "://".toList ++ proxy.host ++
    ':' :: (toString proxy.port).toList

end ProxySettings

/-- The settings of a client. -/
structure Settings where
  /-- Proxy for all requests. -/
  proxy : Option ProxySettings := none
  /-- Certificates are not verified. -/
  trustAll : Bool := false
  /-- Redirects are followed. -/
  followRedirects : Bool := false
  /-- Seconds to wait for a connection. -/
  connectTimeout : Binary64 := .ofInt 15
  /-- Seconds to wait for anything else. -/
  idleTimeout : Binary64 := .zero
  deriving Repr, DecidableEq

/-- The four timeouts of a client; an absent one never expires. -/
structure Timeouts where
  /-- Waiting for a connection. -/
  connect : Option Binary64
  /-- Waiting for data. -/
  read : Option Binary64
  /-- Waiting until data can be sent. -/
  write : Option Binary64
  /-- Waiting for a free connection. -/
  pool : Option Binary64
  deriving Repr, DecidableEq

/-- What a client is made from. -/
structure ClientOptions where
  /-- Certificates are verified. -/
  verify : Bool
  /-- URL of the proxy. -/
  proxy : Option Text
  /-- Redirects are followed. -/
  followRedirects : Bool
  /-- Timeouts of all requests. -/
  timeouts : Timeouts
  deriving Repr, DecidableEq

namespace Settings

/-- A timeout, unless it is zero. -/
def expiry (seconds : Binary64) : Option Binary64 :=
  if seconds.isZero then none else some seconds

/-- The timeouts of a client. -/
def timeouts (settings : Settings) : Timeouts :=
  let idle := expiry settings.idleTimeout
  { connect := expiry settings.connectTimeout
    read := idle
    write := idle
    pool := idle }

/-- What a client with these settings is made from. -/
def clientOptions (settings : Settings) : ClientOptions :=
  { verify := !settings.trustAll
    proxy := settings.proxy.map ProxySettings.url
    followRedirects := settings.followRedirects
    timeouts := settings.timeouts }

end Settings
end HttpAuth
