import RateLimitedIssuance.Bytes
import RateLimitedIssuance.Cryptobyte
import RateLimitedIssuance.Padding
import RateLimitedIssuance.OriginTokenRequest
import RateLimitedIssuance.Primitives
import RateLimitedIssuance.Client
import RateLimitedIssuance.Issuer
import RateLimitedIssuance.Transparent
import RateLimitedIssuance.Exchange
import RateLimitedIssuance.Binding
import RateLimitedIssuance.Index
import RateLimitedIssuance.Robustness
import RateLimitedIssuance.Lifecycle
import RateLimitedIssuance.Aliasing
