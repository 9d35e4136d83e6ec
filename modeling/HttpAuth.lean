import HttpAuth.Content.Session
import HttpAuth.Main
import HttpAuth.Proofs.AddressForm
import HttpAuth.Proofs.Closing
import HttpAuth.Proofs.Combination
import HttpAuth.Proofs.Conservation
import HttpAuth.Proofs.Contacts
import HttpAuth.Proofs.Credentials
import HttpAuth.Proofs.Disclosure
import HttpAuth.Proofs.Disposal
import HttpAuth.Proofs.Environment
import HttpAuth.Proofs.Exchange
import HttpAuth.Proofs.Fields
import HttpAuth.Proofs.FormToken
import HttpAuth.Proofs.Grammar
import HttpAuth.Proofs.Isolation
import HttpAuth.Proofs.JsonToken
import HttpAuth.Proofs.LineForm
import HttpAuth.Proofs.Manifest
import HttpAuth.Proofs.PathPrefix
import HttpAuth.Proofs.Propagation
import HttpAuth.Proofs.Query
import HttpAuth.Proofs.Realm
import HttpAuth.Proofs.Release
import HttpAuth.Proofs.Rendering
import HttpAuth.Proofs.Retry
import HttpAuth.Proofs.Secrecy
import HttpAuth.Proofs.Selection
import HttpAuth.Proofs.Sequence
import HttpAuth.Proofs.Splitting
import HttpAuth.Proofs.Target
import HttpAuth.Proofs.TokenExchange
import HttpAuth.Proofs.TokenLine
import HttpAuth.Proofs.TokenRelease
import HttpAuth.Proofs.TokenUrl
import HttpAuth.Proofs.Transport
