import BalanceAttestation.PercentEncoding
import BalanceAttestation.WakuRest

/-! The URL at which a topic is polled. Its last segment is the percent-encoding of
the topic, so no two topics share one. -/

namespace BalanceAttestation

open PercentEncoding

namespace WakuRest

def contentTopicFor (room : String) : String := "/lp-0005/1/attestation-" ++ room ++ "/proto"

end WakuRest

end BalanceAttestation
