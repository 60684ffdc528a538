import Mathlib.Data.List.Basic

/-!
# The settings table

The keys of the generated table, in libtorrent's declaration order: strings,
booleans and integers by their type bits.
-/

namespace Rsbtd.Settings

inductive SettingKind
  | str | int | bool
  deriving DecidableEq

inductive SettingKey
  | userAgent | announceIp | handshakeClientVersion | outgoingInterfaces | listenInterfaces
  | proxyHostname | proxyUsername | proxyPassword | i2pHostname | peerFingerprint
  | dhtBootstrapNodes | natpmpGateway | webtorrentStunServer | allowMultipleConnectionsPerIp
  | sendRedundantHave | useDhtAsFallback | upnpIgnoreNonrouters | useParoleMode
  | autoManagePreferSeeds | dontCountSlowTorrents | closeRedundantConnections
  | prioritizePartialPieces | rateLimitIpOverhead | announceToAllTiers | announceToAllTrackers
  | preferUdpTrackers | disableHashChecks | allowI2pMixed | noAtimeStorage
  | incomingStartsQueuedTorrents | reportTrueDownloaded | strictEndGameMode | enableOutgoingUtp
  | enableIncomingUtp | enableOutgoingTcp | enableIncomingTcp | noRecheckIncompleteResume
  | anonymousMode | reportWebSeedDownloads | seedingOutgoingConnections
  | noConnectPrivilegedPorts | smoothConnects | alwaysSendUserAgent | applyIpFilterToTrackers
  | banWebSeeds | supportShareMode | reportRedundantBytes | listenSystemPortFallback
  | announceCryptoSupport | enableUpnp | enableNatpmp | enableLsd | enableDht | preferRc4
  | proxyHostnames | proxyPeerConnections | autoSequential | proxyTrackerConnections
  | enableIpNotifier | dhtPreferVerifiedNodeIds | dhtRestrictRoutingIps | dhtRestrictSearchIps
  | dhtExtendedRoutingTable | dhtAggressiveLookups | dhtPrivacyLookups | dhtEnforceNodeId
  | dhtIgnoreDarkInternet | dhtReadOnly | pieceExtentAffinity | validateHttpsTrackers
  | ssrfMitigation | allowIdna | enableSetFileValidData | socks5UdpSendLocalEp
  | proxySendHostInConnect | diskDisableCopyOnWrite | allowMultipleConnectionsPerPid
  | trackerCompletionTimeout | trackerReceiveTimeout | stopTrackerTimeout
  | trackerMaximumResponseLength | pieceTimeout | requestTimeout | requestQueueTime
  | maxAllowedInRequestQueue | maxOutRequestQueue | wholePiecesThreshold | peerTimeout
  | urlseedTimeout | urlseedPipelineSize | urlseedWaitRetry | filePoolSize | maxFailcount
  | minReconnectTime | peerConnectTimeout | connectionSpeed | inactivityTimeout
  | unchokeInterval | optimisticUnchokeInterval | numWant | initialPickerThreshold
  | allowedFastSetSize | suggestMode | maxQueuedDiskBytes | handshakeTimeout
  | sendBufferLowWatermark | sendBufferWatermark | sendBufferWatermarkFactor | chokingAlgorithm
  | seedChokingAlgorithm | diskIoWriteMode | diskIoReadMode | outgoingPort | numOutgoingPorts
  | peerDscp | activeDownloads | activeSeeds | activeChecking | activeDhtLimit
  | activeTrackerLimit | activeLsdLimit | activeLimit | autoManageInterval | seedTimeLimit
  | autoScrapeInterval | autoScrapeMinInterval | maxPeerlistSize | maxPausedPeerlistSize
  | minAnnounceInterval | autoManageStartup | seedingPieceQuota | maxRejects
  | recvSocketBufferSize | sendSocketBufferSize | maxPeerRecvBufferSize | optimisticDiskRetry
  | maxSuggestPieces | localServiceAnnounceInterval | dhtAnnounceInterval
  | udpTrackerTokenExpiry | numOptimisticUnchokeSlots | maxPexPeers | tickInterval
  | shareModeTarget | uploadRateLimit | downloadRateLimit | dhtUploadRateLimit
  | unchokeSlotsLimit | connectionsLimit | connectionsSlack | utpTargetDelay | utpGainFactor
  | utpMinTimeout | utpSynResends | utpFinResends | utpNumResends | utpConnectTimeout
  | utpLossMultiplier | mixedModeAlgorithm | listenQueueSize | torrentConnectBoost
  | alertQueueSize | maxMetadataSize | hashingThreads | checkingMemUsage
  | predictivePieceAnnounce | aioThreads | trackerBackoff | shareRatioLimit
  | seedTimeRatioLimit | peerTurnover | peerTurnoverCutoff | peerTurnoverInterval
  | connectSeedEveryNDownload | maxHttpRecvBufferSize | maxRetryPortBind | alertMask
  | outEncPolicy | inEncPolicy | allowedEncLevel | inactiveDownRate | inactiveUpRate
  | proxyType | proxyPort | i2pPort | urlseedMaxRequestBytes | webSeedNameLookupRetry
  | closeFileInterval | utpCwndReduceTimer | maxWebSeedConnections | resolverCacheTimeout
  | sendNotSentLowWatermark | rateChokerInitialThreshold | upnpLeaseDuration
  | maxConcurrentHttpAnnounces | dhtMaxPeersReply | dhtSearchBranching | dhtMaxFailCount
  | dhtMaxTorrents | dhtMaxDhtItems | dhtMaxPeers | dhtMaxTorrentSearchReply | dhtBlockTimeout
  | dhtBlockRatelimit | dhtItemLifetime | dhtSampleInfohashesInterval
  | dhtMaxInfohashesSampleCount | maxPieceCount | metadataTokenLimit | diskWriteMode
  | mmapFileSizeCutoff | i2pInboundQuantity | i2pOutboundQuantity | i2pInboundLength
  | i2pOutboundLength | announcePort | i2pInboundLengthVariance | i2pOutboundLengthVariance
  | natpmpLeaseDuration | minWebsocketAnnounceInterval | webtorrentConnectionTimeout
  deriving DecidableEq

namespace SettingKey

def kind : SettingKey → SettingKind
  | .userAgent | .announceIp | .handshakeClientVersion | .outgoingInterfaces
  | .listenInterfaces | .proxyHostname | .proxyUsername | .proxyPassword | .i2pHostname
  | .peerFingerprint | .dhtBootstrapNodes | .natpmpGateway | .webtorrentStunServer => .str
  | .allowMultipleConnectionsPerIp | .sendRedundantHave | .useDhtAsFallback
  | .upnpIgnoreNonrouters | .useParoleMode | .autoManagePreferSeeds | .dontCountSlowTorrents
  | .closeRedundantConnections | .prioritizePartialPieces | .rateLimitIpOverhead
  | .announceToAllTiers | .announceToAllTrackers | .preferUdpTrackers | .disableHashChecks
  | .allowI2pMixed | .noAtimeStorage | .incomingStartsQueuedTorrents | .reportTrueDownloaded
  | .strictEndGameMode | .enableOutgoingUtp | .enableIncomingUtp | .enableOutgoingTcp
  | .enableIncomingTcp | .noRecheckIncompleteResume | .anonymousMode | .reportWebSeedDownloads
  | .seedingOutgoingConnections | .noConnectPrivilegedPorts | .smoothConnects
  | .alwaysSendUserAgent | .applyIpFilterToTrackers | .banWebSeeds | .supportShareMode
  | .reportRedundantBytes | .listenSystemPortFallback | .announceCryptoSupport | .enableUpnp
  | .enableNatpmp | .enableLsd | .enableDht | .preferRc4 | .proxyHostnames
  | .proxyPeerConnections | .autoSequential | .proxyTrackerConnections | .enableIpNotifier
  | .dhtPreferVerifiedNodeIds | .dhtRestrictRoutingIps | .dhtRestrictSearchIps
  | .dhtExtendedRoutingTable | .dhtAggressiveLookups | .dhtPrivacyLookups | .dhtEnforceNodeId
  | .dhtIgnoreDarkInternet | .dhtReadOnly | .pieceExtentAffinity | .validateHttpsTrackers
  | .ssrfMitigation | .allowIdna | .enableSetFileValidData | .socks5UdpSendLocalEp
  | .proxySendHostInConnect | .diskDisableCopyOnWrite | .allowMultipleConnectionsPerPid => .bool
  | .trackerCompletionTimeout | .trackerReceiveTimeout | .stopTrackerTimeout
  | .trackerMaximumResponseLength | .pieceTimeout | .requestTimeout | .requestQueueTime
  | .maxAllowedInRequestQueue | .maxOutRequestQueue | .wholePiecesThreshold | .peerTimeout
  | .urlseedTimeout | .urlseedPipelineSize | .urlseedWaitRetry | .filePoolSize | .maxFailcount
  | .minReconnectTime | .peerConnectTimeout | .connectionSpeed | .inactivityTimeout
  | .unchokeInterval | .optimisticUnchokeInterval | .numWant | .initialPickerThreshold
  | .allowedFastSetSize | .suggestMode | .maxQueuedDiskBytes | .handshakeTimeout
  | .sendBufferLowWatermark | .sendBufferWatermark | .sendBufferWatermarkFactor
  | .chokingAlgorithm | .seedChokingAlgorithm | .diskIoWriteMode | .diskIoReadMode
  | .outgoingPort | .numOutgoingPorts | .peerDscp | .activeDownloads | .activeSeeds
  | .activeChecking | .activeDhtLimit | .activeTrackerLimit | .activeLsdLimit | .activeLimit
  | .autoManageInterval | .seedTimeLimit | .autoScrapeInterval | .autoScrapeMinInterval
  | .maxPeerlistSize | .maxPausedPeerlistSize | .minAnnounceInterval | .autoManageStartup
  | .seedingPieceQuota | .maxRejects | .recvSocketBufferSize | .sendSocketBufferSize
  | .maxPeerRecvBufferSize | .optimisticDiskRetry | .maxSuggestPieces
  | .localServiceAnnounceInterval | .dhtAnnounceInterval | .udpTrackerTokenExpiry
  | .numOptimisticUnchokeSlots | .maxPexPeers | .tickInterval | .shareModeTarget
  | .uploadRateLimit | .downloadRateLimit | .dhtUploadRateLimit | .unchokeSlotsLimit
  | .connectionsLimit | .connectionsSlack | .utpTargetDelay | .utpGainFactor | .utpMinTimeout
  | .utpSynResends | .utpFinResends | .utpNumResends | .utpConnectTimeout | .utpLossMultiplier
  | .mixedModeAlgorithm | .listenQueueSize | .torrentConnectBoost | .alertQueueSize
  | .maxMetadataSize | .hashingThreads | .checkingMemUsage | .predictivePieceAnnounce
  | .aioThreads | .trackerBackoff | .shareRatioLimit | .seedTimeRatioLimit | .peerTurnover
  | .peerTurnoverCutoff | .peerTurnoverInterval | .connectSeedEveryNDownload
  | .maxHttpRecvBufferSize | .maxRetryPortBind | .alertMask | .outEncPolicy | .inEncPolicy
  | .allowedEncLevel | .inactiveDownRate | .inactiveUpRate | .proxyType | .proxyPort | .i2pPort
  | .urlseedMaxRequestBytes | .webSeedNameLookupRetry | .closeFileInterval
  | .utpCwndReduceTimer | .maxWebSeedConnections | .resolverCacheTimeout
  | .sendNotSentLowWatermark | .rateChokerInitialThreshold | .upnpLeaseDuration
  | .maxConcurrentHttpAnnounces | .dhtMaxPeersReply | .dhtSearchBranching | .dhtMaxFailCount
  | .dhtMaxTorrents | .dhtMaxDhtItems | .dhtMaxPeers | .dhtMaxTorrentSearchReply
  | .dhtBlockTimeout | .dhtBlockRatelimit | .dhtItemLifetime | .dhtSampleInfohashesInterval
  | .dhtMaxInfohashesSampleCount | .maxPieceCount | .metadataTokenLimit | .diskWriteMode
  | .mmapFileSizeCutoff | .i2pInboundQuantity | .i2pOutboundQuantity | .i2pInboundLength
  | .i2pOutboundLength | .announcePort | .i2pInboundLengthVariance | .i2pOutboundLengthVariance
  | .natpmpLeaseDuration | .minWebsocketAnnounceInterval | .webtorrentConnectionTimeout => .int

def name : SettingKey → String
  | .userAgent => "user_agent"
  | .announceIp => "announce_ip"
  | .handshakeClientVersion => "handshake_client_version"
  | .outgoingInterfaces => "outgoing_interfaces"
  | .listenInterfaces => "listen_interfaces"
  | .proxyHostname => "proxy_hostname"
  | .proxyUsername => "proxy_username"
  | .proxyPassword => "proxy_password"
  | .i2pHostname => "i2p_hostname"
  | .peerFingerprint => "peer_fingerprint"
  | .dhtBootstrapNodes => "dht_bootstrap_nodes"
  | .natpmpGateway => "natpmp_gateway"
  | .webtorrentStunServer => "webtorrent_stun_server"
  | .allowMultipleConnectionsPerIp => "allow_multiple_connections_per_ip"
  | .sendRedundantHave => "send_redundant_have"
  | .useDhtAsFallback => "use_dht_as_fallback"
  | .upnpIgnoreNonrouters => "upnp_ignore_nonrouters"
  | .useParoleMode => "use_parole_mode"
  | .autoManagePreferSeeds => "auto_manage_prefer_seeds"
  | .dontCountSlowTorrents => "dont_count_slow_torrents"
  | .closeRedundantConnections => "close_redundant_connections"
  | .prioritizePartialPieces => "prioritize_partial_pieces"
  | .rateLimitIpOverhead => "rate_limit_ip_overhead"
  | .announceToAllTiers => "announce_to_all_tiers"
  | .announceToAllTrackers => "announce_to_all_trackers"
  | .preferUdpTrackers => "prefer_udp_trackers"
  | .disableHashChecks => "disable_hash_checks"
  | .allowI2pMixed => "allow_i2p_mixed"
  | .noAtimeStorage => "no_atime_storage"
  | .incomingStartsQueuedTorrents => "incoming_starts_queued_torrents"
  | .reportTrueDownloaded => "report_true_downloaded"
  | .strictEndGameMode => "strict_end_game_mode"
  | .enableOutgoingUtp => "enable_outgoing_utp"
  | .enableIncomingUtp => "enable_incoming_utp"
  | .enableOutgoingTcp => "enable_outgoing_tcp"
  | .enableIncomingTcp => "enable_incoming_tcp"
  | .noRecheckIncompleteResume => "no_recheck_incomplete_resume"
  | .anonymousMode => "anonymous_mode"
  | .reportWebSeedDownloads => "report_web_seed_downloads"
  | .seedingOutgoingConnections => "seeding_outgoing_connections"
  | .noConnectPrivilegedPorts => "no_connect_privileged_ports"
  | .smoothConnects => "smooth_connects"
  | .alwaysSendUserAgent => "always_send_user_agent"
  | .applyIpFilterToTrackers => "apply_ip_filter_to_trackers"
  | .banWebSeeds => "ban_web_seeds"
  | .supportShareMode => "support_share_mode"
  | .reportRedundantBytes => "report_redundant_bytes"
  | .listenSystemPortFallback => "listen_system_port_fallback"
  | .announceCryptoSupport => "announce_crypto_support"
  | .enableUpnp => "enable_upnp"
  | .enableNatpmp => "enable_natpmp"
  | .enableLsd => "enable_lsd"
  | .enableDht => "enable_dht"
  | .preferRc4 => "prefer_rc4"
  | .proxyHostnames => "proxy_hostnames"
  | .proxyPeerConnections => "proxy_peer_connections"
  | .autoSequential => "auto_sequential"
  | .proxyTrackerConnections => "proxy_tracker_connections"
  | .enableIpNotifier => "enable_ip_notifier"
  | .dhtPreferVerifiedNodeIds => "dht_prefer_verified_node_ids"
  | .dhtRestrictRoutingIps => "dht_restrict_routing_ips"
  | .dhtRestrictSearchIps => "dht_restrict_search_ips"
  | .dhtExtendedRoutingTable => "dht_extended_routing_table"
  | .dhtAggressiveLookups => "dht_aggressive_lookups"
  | .dhtPrivacyLookups => "dht_privacy_lookups"
  | .dhtEnforceNodeId => "dht_enforce_node_id"
  | .dhtIgnoreDarkInternet => "dht_ignore_dark_internet"
  | .dhtReadOnly => "dht_read_only"
  | .pieceExtentAffinity => "piece_extent_affinity"
  | .validateHttpsTrackers => "validate_https_trackers"
  | .ssrfMitigation => "ssrf_mitigation"
  | .allowIdna => "allow_idna"
  | .enableSetFileValidData => "enable_set_file_valid_data"
  | .socks5UdpSendLocalEp => "socks5_udp_send_local_ep"
  | .proxySendHostInConnect => "proxy_send_host_in_connect"
  | .diskDisableCopyOnWrite => "disk_disable_copy_on_write"
  | .allowMultipleConnectionsPerPid => "allow_multiple_connections_per_pid"
  | .trackerCompletionTimeout => "tracker_completion_timeout"
  | .trackerReceiveTimeout => "tracker_receive_timeout"
  | .stopTrackerTimeout => "stop_tracker_timeout"
  | .trackerMaximumResponseLength => "tracker_maximum_response_length"
  | .pieceTimeout => "piece_timeout"
  | .requestTimeout => "request_timeout"
  | .requestQueueTime => "request_queue_time"
  | .maxAllowedInRequestQueue => "max_allowed_in_request_queue"
  | .maxOutRequestQueue => "max_out_request_queue"
  | .wholePiecesThreshold => "whole_pieces_threshold"
  | .peerTimeout => "peer_timeout"
  | .urlseedTimeout => "urlseed_timeout"
  | .urlseedPipelineSize => "urlseed_pipeline_size"
  | .urlseedWaitRetry => "urlseed_wait_retry"
  | .filePoolSize => "file_pool_size"
  | .maxFailcount => "max_failcount"
  | .minReconnectTime => "min_reconnect_time"
  | .peerConnectTimeout => "peer_connect_timeout"
  | .connectionSpeed => "connection_speed"
  | .inactivityTimeout => "inactivity_timeout"
  | .unchokeInterval => "unchoke_interval"
  | .optimisticUnchokeInterval => "optimistic_unchoke_interval"
  | .numWant => "num_want"
  | .initialPickerThreshold => "initial_picker_threshold"
  | .allowedFastSetSize => "allowed_fast_set_size"
  | .suggestMode => "suggest_mode"
  | .maxQueuedDiskBytes => "max_queued_disk_bytes"
  | .handshakeTimeout => "handshake_timeout"
  | .sendBufferLowWatermark => "send_buffer_low_watermark"
  | .sendBufferWatermark => "send_buffer_watermark"
  | .sendBufferWatermarkFactor => "send_buffer_watermark_factor"
  | .chokingAlgorithm => "choking_algorithm"
  | .seedChokingAlgorithm => "seed_choking_algorithm"
  | .diskIoWriteMode => "disk_io_write_mode"
  | .diskIoReadMode => "disk_io_read_mode"
  | .outgoingPort => "outgoing_port"
  | .numOutgoingPorts => "num_outgoing_ports"
  | .peerDscp => "peer_dscp"
  | .activeDownloads => "active_downloads"
  | .activeSeeds => "active_seeds"
  | .activeChecking => "active_checking"
  | .activeDhtLimit => "active_dht_limit"
  | .activeTrackerLimit => "active_tracker_limit"
  | .activeLsdLimit => "active_lsd_limit"
  | .activeLimit => "active_limit"
  | .autoManageInterval => "auto_manage_interval"
  | .seedTimeLimit => "seed_time_limit"
  | .autoScrapeInterval => "auto_scrape_interval"
  | .autoScrapeMinInterval => "auto_scrape_min_interval"
  | .maxPeerlistSize => "max_peerlist_size"
  | .maxPausedPeerlistSize => "max_paused_peerlist_size"
  | .minAnnounceInterval => "min_announce_interval"
  | .autoManageStartup => "auto_manage_startup"
  | .seedingPieceQuota => "seeding_piece_quota"
  | .maxRejects => "max_rejects"
  | .recvSocketBufferSize => "recv_socket_buffer_size"
  | .sendSocketBufferSize => "send_socket_buffer_size"
  | .maxPeerRecvBufferSize => "max_peer_recv_buffer_size"
  | .optimisticDiskRetry => "optimistic_disk_retry"
  | .maxSuggestPieces => "max_suggest_pieces"
  | .localServiceAnnounceInterval => "local_service_announce_interval"
  | .dhtAnnounceInterval => "dht_announce_interval"
  | .udpTrackerTokenExpiry => "udp_tracker_token_expiry"
  | .numOptimisticUnchokeSlots => "num_optimistic_unchoke_slots"
  | .maxPexPeers => "max_pex_peers"
  | .tickInterval => "tick_interval"
  | .shareModeTarget => "share_mode_target"
  | .uploadRateLimit => "upload_rate_limit"
  | .downloadRateLimit => "download_rate_limit"
  | .dhtUploadRateLimit => "dht_upload_rate_limit"
  | .unchokeSlotsLimit => "unchoke_slots_limit"
  | .connectionsLimit => "connections_limit"
  | .connectionsSlack => "connections_slack"
  | .utpTargetDelay => "utp_target_delay"
  | .utpGainFactor => "utp_gain_factor"
  | .utpMinTimeout => "utp_min_timeout"
  | .utpSynResends => "utp_syn_resends"
  | .utpFinResends => "utp_fin_resends"
  | .utpNumResends => "utp_num_resends"
  | .utpConnectTimeout => "utp_connect_timeout"
  | .utpLossMultiplier => "utp_loss_multiplier"
  | .mixedModeAlgorithm => "mixed_mode_algorithm"
  | .listenQueueSize => "listen_queue_size"
  | .torrentConnectBoost => "torrent_connect_boost"
  | .alertQueueSize => "alert_queue_size"
  | .maxMetadataSize => "max_metadata_size"
  | .hashingThreads => "hashing_threads"
  | .checkingMemUsage => "checking_mem_usage"
  | .predictivePieceAnnounce => "predictive_piece_announce"
  | .aioThreads => "aio_threads"
  | .trackerBackoff => "tracker_backoff"
  | .shareRatioLimit => "share_ratio_limit"
  | .seedTimeRatioLimit => "seed_time_ratio_limit"
  | .peerTurnover => "peer_turnover"
  | .peerTurnoverCutoff => "peer_turnover_cutoff"
  | .peerTurnoverInterval => "peer_turnover_interval"
  | .connectSeedEveryNDownload => "connect_seed_every_n_download"
  | .maxHttpRecvBufferSize => "max_http_recv_buffer_size"
  | .maxRetryPortBind => "max_retry_port_bind"
  | .alertMask => "alert_mask"
  | .outEncPolicy => "out_enc_policy"
  | .inEncPolicy => "in_enc_policy"
  | .allowedEncLevel => "allowed_enc_level"
  | .inactiveDownRate => "inactive_down_rate"
  | .inactiveUpRate => "inactive_up_rate"
  | .proxyType => "proxy_type"
  | .proxyPort => "proxy_port"
  | .i2pPort => "i2p_port"
  | .urlseedMaxRequestBytes => "urlseed_max_request_bytes"
  | .webSeedNameLookupRetry => "web_seed_name_lookup_retry"
  | .closeFileInterval => "close_file_interval"
  | .utpCwndReduceTimer => "utp_cwnd_reduce_timer"
  | .maxWebSeedConnections => "max_web_seed_connections"
  | .resolverCacheTimeout => "resolver_cache_timeout"
  | .sendNotSentLowWatermark => "send_not_sent_low_watermark"
  | .rateChokerInitialThreshold => "rate_choker_initial_threshold"
  | .upnpLeaseDuration => "upnp_lease_duration"
  | .maxConcurrentHttpAnnounces => "max_concurrent_http_announces"
  | .dhtMaxPeersReply => "dht_max_peers_reply"
  | .dhtSearchBranching => "dht_search_branching"
  | .dhtMaxFailCount => "dht_max_fail_count"
  | .dhtMaxTorrents => "dht_max_torrents"
  | .dhtMaxDhtItems => "dht_max_dht_items"
  | .dhtMaxPeers => "dht_max_peers"
  | .dhtMaxTorrentSearchReply => "dht_max_torrent_search_reply"
  | .dhtBlockTimeout => "dht_block_timeout"
  | .dhtBlockRatelimit => "dht_block_ratelimit"
  | .dhtItemLifetime => "dht_item_lifetime"
  | .dhtSampleInfohashesInterval => "dht_sample_infohashes_interval"
  | .dhtMaxInfohashesSampleCount => "dht_max_infohashes_sample_count"
  | .maxPieceCount => "max_piece_count"
  | .metadataTokenLimit => "metadata_token_limit"
  | .diskWriteMode => "disk_write_mode"
  | .mmapFileSizeCutoff => "mmap_file_size_cutoff"
  | .i2pInboundQuantity => "i2p_inbound_quantity"
  | .i2pOutboundQuantity => "i2p_outbound_quantity"
  | .i2pInboundLength => "i2p_inbound_length"
  | .i2pOutboundLength => "i2p_outbound_length"
  | .announcePort => "announce_port"
  | .i2pInboundLengthVariance => "i2p_inbound_length_variance"
  | .i2pOutboundLengthVariance => "i2p_outbound_length_variance"
  | .natpmpLeaseDuration => "natpmp_lease_duration"
  | .minWebsocketAnnounceInterval => "min_websocket_announce_interval"
  | .webtorrentConnectionTimeout => "webtorrent_connection_timeout"

end SettingKey

end Rsbtd.Settings
